import ContentBlocks.Batch.Run
import ContentBlocks.Proofs.Block.Shape
import ContentBlocks.Proofs.Conversion.Renaming
import ContentBlocks.Proofs.Storage.Discovery

/-!
# One source by itself

The document of a source depends on what stands where its path leads, and on nothing else on the
disk. Apart from its keys and its moment it does not depend on the keys drawn before either. All of
this holds with any readers.

## Main definitions

* `Document.unkeyed`: a document without its keys and its moment

## Main results

* `Source.read_eq_ok_iff`: which files are sources
* `Document.ofSource?_eq_some_iff`: which sources have a document
* `convertSource_of_content?`: conversion looks at one place only
* `unkeyed_of_convertSource`: any supply of keys that are not empty gives the same document
-/

namespace ContentBlocks

open Storage (Disk Path Content Entry)

variable {load : String → Except Yaml.Failure Yaml.Value}

/-! ### Reading -/

/-- Reading looks at what stands where the path leads. -/
theorem Source.read_of_resolve {d : Disk} {p : Path} {place : List String}
    (h : d.resolve p = .ok place) (most : Int) :
    read load d p most =
      if p.isTooLong then .error (.storage ⟨.longName, p⟩)
      else
        match d.content? place with
        | none => .error (.storage ⟨.missing, p⟩)
        | some .folder =>
          if most < folderSize then .error (.tooLarge folderSize most)
          else .error (.storage ⟨.isFolder, p⟩)
        | some (.file bytes) =>
          if most < bytes.length then .error (.tooLarge bytes.length most)
          else (textOf bytes).bind fun text => ofText load p text bytes.length := by
  unfold read Path.ifTaken Disk.find Disk.content? Entry.content?
  simp only [h, Except.bind]
  cases p.isTooLong with
  | true => rfl
  | false => rcases d.root.at? place with _ | _ | _ <;> rfl

namespace Source

variable {d : Disk} {p : Path} {text : String} {size : Nat} {most : Int} {source : Source}

/-- A text is a source if its header can be read and its body is not blank. -/
theorem ofText_eq_ok_iff :
    ofText load p text size = .ok source ↔
      ∃ header body, Header.readWith load text = .ok (header, body) ∧
        Text.allBlank body.toList = false ∧
        source = ⟨p, ((Yaml.Value.field? "slug" header).filter (·.truthy)).getD
          (.str (ContentBlocks.slug p.stem)), text, body, header, size⟩ := by
  unfold ofText
  constructor
  · intro h
    split at h
    · cases h
    · next header body hread =>
      split at h
      · cases h
      · next hblank => exact ⟨header, body, hread, by simpa using hblank, (Except.ok.inj h).symm⟩
  · rintro ⟨header, body, hread, hblank, rfl⟩
    rw [hread]
    dsimp only
    rw [if_neg (by simp [hblank])]

/-- A file is a source if neither it nor its path is too large and its bytes are a text that is
one. -/
theorem read_eq_ok_iff :
    read load d p most = .ok source ↔ p.isTooLong = false ∧
      ∃ bytes text, d.find p = .ok (.file bytes) ∧ (bytes.length : Int) ≤ most ∧
        textOf bytes = .ok text ∧ ofText load p text bytes.length = .ok source := by
  unfold read
  constructor
  · intro h
    split at h
    · cases h
    · split at h <;> cases h
    · next bytes hfile =>
      obtain ⟨hshort, hfile⟩ := Path.ifTaken_eq_ok_iff.mp hfile
      split at h
      · cases h
      · next hsize =>
        cases htext : textOf bytes with
        | error cause => rw [htext] at h; cases h
        | ok text =>
          rw [htext] at h
          exact ⟨hshort, bytes, text, hfile, Int.not_lt.mp hsize, htext, h⟩
  · rintro ⟨hshort, bytes, text, hfile, hsize, htext, hsource⟩
    rw [Path.ifTaken_eq_ok_iff.mpr ⟨hshort, hfile⟩]
    dsimp only
    rw [if_neg (Int.not_lt.mpr hsize), htext]
    exact hsource

/-- A path leads to one source at most, whatever sizes are allowed. -/
theorem read_unique {most' : Int} {source' : Source} (h : read load d p most = .ok source)
    (h' : read load d p most' = .ok source') : source = source' := by
  obtain ⟨-, bytes, text, hfile, -, htext, hsource⟩ := read_eq_ok_iff.mp h
  obtain ⟨-, bytes', text', hfile', -, htext', hsource'⟩ := read_eq_ok_iff.mp h'
  rw [hfile, Except.ok.injEq, Entry.file.injEq] at hfile'
  subst hfile'
  rw [htext, Except.ok.injEq] at htext'
  subst htext'
  exact Except.ok.inj (hsource.symm.trans hsource')

/-- A source has the slug that its header asks for, and else one from its name. -/
theorem slug_of_read (h : read load d p most = .ok source) :
    source.slug = ((Yaml.Value.field? "slug" source.header).filter (·.truthy)).getD
      (.str (ContentBlocks.slug p.stem)) := by
  obtain ⟨-, bytes, text, -, -, -, hsource⟩ := read_eq_ok_iff.mp h
  obtain ⟨header, body, -, -, rfl⟩ := ofText_eq_ok_iff.mp hsource
  rfl

end Source

/-! ### Documents -/

/-- A document without its keys and its moment. -/
def Document.unkeyed (doc : Document) : Document :=
  { doc with convertedAt := "", blocks := doc.blocks.map Block.unkeyed }

namespace Document

variable {source : Source} {bs bs' : List Block} {now : String} {doc : Document}

/-- A source has a document if its slug is a text and the keys of its header are names. -/
theorem ofSource?_eq_some_iff :
    ofSource? source bs now = some doc ↔
      ∃ slug header, asText? source.slug = some slug ∧ namedHeader? source.header = some header ∧
        doc = ⟨slug, source.path.toText, Digest.sha256 (Text.utf8 source.text), source.size, header,
          now, bs, outline bs, ContentBlocks.stats bs,
          source.slug.isBroken || source.header.any fun (k, _) => k.isBroken⟩ := by
  simp only [ofSource?, Option.bind_eq_bind, Option.bind_eq_some_iff, Option.pure_def,
    Option.some.injEq, exists_and_left, eq_comm (a := doc)]

theorem slug_of_ofSource? (h : ofSource? source bs now = some doc) :
    asText? source.slug = some doc.slug := by
  obtain ⟨slug, header, hslug, -, rfl⟩ := ofSource?_eq_some_iff.mp h
  exact hslug

/-- A document has the blocks that it is made of, and the outline and the counts of these. -/
theorem blocks_of_ofSource? (h : ofSource? source bs now = some doc) :
    doc.blocks = bs ∧ doc.headings = outline bs ∧ doc.stats = ContentBlocks.stats bs := by
  obtain ⟨slug, header, -, -, rfl⟩ := ofSource?_eq_some_iff.mp h
  exact ⟨rfl, rfl, rfl⟩

/-- Blocks that differ in their keys make documents that differ in their keys. -/
theorem unkeyed_of_ofSource? (h : ofSource? source bs now = some doc)
    (hbs : bs'.map Block.unkeyed = bs.map Block.unkeyed) (now' : String) :
    ∃ doc', ofSource? source bs' now' = some doc' ∧ doc'.unkeyed = doc.unkeyed := by
  obtain ⟨slug, header, hslug, hheader, rfl⟩ := ofSource?_eq_some_iff.mp h
  refine ⟨_, ofSource?_eq_some_iff.mpr ⟨slug, header, hslug, hheader, rfl⟩, ?_⟩
  simp only [unkeyed, hbs, outline_of_unkeyed hbs, stats_of_unkeyed hbs]

end Document

/-- Any supply of keys that are not empty gives the same blocks apart from their keys, and they are
fit to be written. -/
theorem unkeyed_of_convertText {parse : String → String → Except Markdown.Failure (List Node)}
    {preset text : String} {source source' : Key.Source}
    (hs : ∀ n, ∃ key, source n = .ok key) (hs' : ∀ n, ∃ key, source' n = .ok key ∧ key ≠ "")
    {start stop : Nat} {bs : List Block}
    (h : convertText parse preset text source start = .ok (bs, stop)) (start' : Nat) :
    ∃ bs' stop', convertText parse preset text source' start' = .ok (bs', stop') ∧
      bs'.map Block.unkeyed = bs.map Block.unkeyed ∧ Shape.fit bs' = true := by
  unfold convertText at h ⊢
  split at h
  · next hblank =>
    -- a blank text has no blocks, whatever the keys
    obtain ⟨rfl, -⟩ := Prod.mk.inj (Except.ok.inj h)
    rw [if_pos hblank]
    exact ⟨[], start', rfl, rfl, rfl⟩
  · next hblank =>
    rw [if_neg hblank]
    cases hread : parse preset text with
    | error cause => rw [hread] at h; cases h
    | ok ns =>
      rw [hread] at h
      cases hrun : (convert ns).run source start with
      | error cause => simp only [hrun] at h; cases h
      | ok result =>
        simp only [hrun] at h
        obtain rfl := Except.ok.inj h
        obtain ⟨bs', stop', hrun', hbs⟩ := Conversion.unkeyed_of_run_convert hs
          (fun n => (hs' n).imp fun _ => And.left) hrun start'
        have hkeys : ∀ i k, source' i = .ok k → k ≠ "" := by
          intro i k hk
          obtain ⟨key, hkey, hne⟩ := hs' i
          obtain rfl := Except.ok.inj (hk.symm.trans hkey)
          exact hne
        refine ⟨bs', stop', ?_, hbs, Shape.fit_iff_keyed.mpr (keyed_of_convert hkeys hrun')⟩
        simp only [hrun']

namespace Batch

variable {plan : Plan} {d d' : Disk} {p : Path} {start stop : Nat} {doc : Document}

/-- **Conversion looks at one place only**: the one that the path leads to. -/
theorem convertSource_of_content? {place : List String} (h : d.resolve p = .ok place)
    (h' : d'.resolve p = .ok place) (hcontent : d'.content? place = d.content? place) :
    convertSource plan d' p start = convertSource plan d p start := by
  unfold convertSource
  rw [Source.read_of_resolve h', Source.read_of_resolve h, hcontent]

/-! ### What a document takes -/

section Steps

variable {ε ε' α β : Type}

theorem isOk_iff {x : Except ε α} : x.isOk = true ↔ ∃ a, x = .ok a := by
  cases x <;> simp [Except.isOk, Except.toBool]

theorem mapError_eq_ok_iff {x : Except ε α} {f : ε → ε'} {a : α} :
    x.mapError f = .ok a ↔ x = .ok a := by
  cases x <;> simp [Except.mapError]

theorem bind_eq_ok_iff {x : Except ε α} {f : α → Except ε β} {b : β} :
    (x >>= f) = .ok b ↔ ∃ a, x = .ok a ∧ f a = .ok b := by
  cases x <;> simp [bind, Except.bind]

end Steps

/-- A source has a document if it can be read, its text can be converted, its blocks pass the check,
and it has a slug and names for its header. -/
theorem convertSource_eq_ok_iff :
    convertSource plan d p start = .ok (doc, stop) ↔
      ∃ source bs, Source.read plan.readers.yaml d p plan.settings.maxFileSize = .ok source ∧
        convertText plan.readers.markdown plan.settings.parserConfig source.body plan.keys start =
          .ok (bs, stop) ∧
        (plan.settings.validateOutput = true → Shape.fit bs = true) ∧
        Document.ofSource? source bs plan.now = some doc := by
  simp only [convertSource, sourceDocument, sourceBlocks, bind_eq_ok_iff, mapError_eq_ok_iff,
    Prod.exists]
  -- what is left of the steps is the check of the blocks and the making of the document
  constructor
  · rintro ⟨source, hread, bs, drawn, htext, h⟩
    split at h
    · cases h
    · next hpass =>
      cases hdoc : Document.ofSource? source bs plan.now with
      | none => rw [hdoc] at h; cases h
      | some found =>
        rw [hdoc] at h
        cases h
        exact ⟨source, bs, hread, htext, by simpa using hpass, hdoc⟩
  · rintro ⟨source, bs, hread, htext, hfit, hdoc⟩
    refine ⟨source, hread, bs, stop, htext, ?_⟩
    rw [if_neg (by simpa using hfit), hdoc]
    rfl

/-- The document of a source that asks for no slug has one from the name of the source. -/
theorem slug_of_convertSource {source : Source}
    (h : convertSource plan d p start = .ok (doc, stop))
    (hread : Source.read plan.readers.yaml d p plan.settings.maxFileSize = .ok source)
    (hasks : (Yaml.Value.field? "slug" source.header).filter (·.truthy) = none) :
    doc.slug = slug p.stem := by
  obtain ⟨source', bs, hread', -, -, hdoc⟩ := convertSource_eq_ok_iff.mp h
  rw [hread, Except.ok.injEq] at hread'
  subst hread'
  have hslug := Document.slug_of_ofSource? hdoc
  rw [Source.slug_of_read hread, hasks] at hslug
  exact (Option.some.inj hslug).symm

/-- **The document of a source** is the same with any supply of keys that are not empty, from any
number on, and at any moment, apart from these. -/
theorem unkeyed_of_convertSource (hs : ∀ n, ∃ key, plan.keys n = .ok key)
    (h : convertSource plan d p start = .ok (doc, stop)) {keys : Key.Source}
    (hs' : ∀ n, ∃ key, keys n = .ok key ∧ key ≠ "") (now : String) (start' : Nat) :
    ∃ doc' stop',
      convertSource ⟨plan.readers, plan.settings, keys, now⟩ d p start' = .ok (doc', stop') ∧
      doc'.unkeyed = doc.unkeyed := by
  obtain ⟨source, bs, hread, htext, -, hdoc⟩ := convertSource_eq_ok_iff.mp h
  obtain ⟨bs', stop', htext', hbs, hfit⟩ := unkeyed_of_convertText hs hs' htext start'
  obtain ⟨doc', hdoc', hunkeyed⟩ := Document.unkeyed_of_ofSource? hdoc hbs now
  exact ⟨doc', stop',
    convertSource_eq_ok_iff.mpr ⟨source, bs', hread, htext', fun _ => hfit, hdoc'⟩, hunkeyed⟩

end Batch

end ContentBlocks
