import ContentBlocks.Proofs.Conversion.Calls
import ContentBlocks.Proofs.Conversion.Outline
import ContentBlocks.Proofs.Conversion.Trigger
import ContentBlocks.Proofs.Json.Prose

/-!
# The trees that cannot be converted

Of all the ways in which a tree can be malformed, only four end its conversion: a heading without a
level from 1 to 6, an image paragraph with a caption that is no text, one with a source that cannot
be written, and a quotation that is taken for a highlight of no kind. The first node of such a kind
decides which failure it is; every other tree is converted, whatever its shape.

## Main definitions

* `Node.Refused n e`: a node at the top cannot become blocks, because of a failure

## Main results

* `refusal?_eq_some_iff`: the nodes that cannot become blocks
* `fails_iff_refused`: the documents that cannot be converted
* `not_refused_by_levels_titles_and_keywords_alone`: a source that cannot be written is a reason of
  its own
-/

namespace ContentBlocks

open Conversion Schema

/-- A node at the top cannot become blocks, because of a failure. -/
inductive Node.Refused (n : Node) : Failure → Prop where
  /-- The tag of a heading has no number after its first letter. -/
  | unreadable (kind : n.kind = .heading) (tag : tagNumber? n = none) : n.Refused .unreadableLevel
  /-- The number is less than any level. -/
  | shallow {depth : Int} (kind : n.kind = .heading) (tag : tagNumber? n = some depth)
      (low : depth < 1) :
      n.Refused (.invalid [⟨[.field "style"], .notListed⟩, ⟨[.field "level"], .tooSmall⟩])
  /-- The number is greater than any level. -/
  | deep {depth : Int} (kind : n.kind = .heading) (tag : tagNumber? n = some depth)
      (high : 6 < depth) :
      n.Refused (.invalid [⟨[.field "style"], .notListed⟩, ⟨[.field "level"], .tooLarge⟩])
  /-- All that is meaningful in a paragraph is an image, whose source is, or has in it, a whole
  number of more digits than are written. -/
  | address {i : Node} {source : Json} {number : Int} (kind : n.kind = .paragraph)
      (lone : (containerNodes n.container?).filter Node.isMeaningful = [i])
      (image : i.kind = .image) (given : i.attrs.lookup "src" = some source)
      (mem : number ∈ source.numbers) (long : Json.TooLong number) : n.Refused .unwritableAddress
  /-- All that is meaningful in a paragraph is an image, whose title says something and is no text.
  Its source, if it has one, can be written. -/
  | caption {i : Node} {title : Json} (kind : n.kind = .paragraph)
      (lone : (containerNodes n.container?).filter Node.isMeaningful = [i])
      (image : i.kind = .image)
      (writable : ∀ source, i.attrs.lookup "src" = some source →
        ∀ number ∈ source.numbers, ¬ Json.TooLong number)
      (given : i.attrs.lookup "title" = some title) (truthy : title.truthy = true)
      (notText : ∀ s, title ≠ .str s) :
      n.Refused (.invalid [⟨[.field "caption"], .notText⟩])
  /-- The first line of a quotation opens with a keyword that counts as the name of a kind when case
  is ignored, and is the name of none when it is written in small letters. -/
  | keyword {line keyword rest : List Char} {like : HighlightKind} (kind : n.kind = .blockquote)
      (first : Trigger.lineOf? n = some line)
      (opens : Trigger.Opens (Text.strip line) keyword rest)
      (counts : Trigger.CountsAs keyword like)
      (unlisted : ∀ k : HighlightKind, Text.lower keyword ≠ k.name.toList) :
      n.Refused (.invalid [⟨[.field "kind"], .notListed⟩])

namespace Conversion

variable {n i : Node} {e : Failure} {depth : Int}

theorem refusalOf_eq_some_iff {α : Type} {checked : Checked α} :
    refusalOf checked = some e ↔ ∃ issues, checked = .error issues ∧ .invalid issues = e := by
  cases checked <;> simp [refusalOf]

/-! ### Headings -/

/-- Every number from 1 to 6 is a level. -/
theorem exists_levelOf (low : 1 ≤ depth) (high : depth ≤ 6) :
    ∃ level, levelOf depth = .ok level := by
  have hbounds : 1 ≤ depth.toNat ∧ depth.toNat ≤ 6 := by omega
  exact ⟨⟨depth.toNat, hbounds.1, hbounds.2⟩, by simp only [levelOf, Level.ofNat?, dif_pos hbounds]⟩

theorem levelOf_of_lt (low : depth < 1) :
    levelOf depth = .error [⟨[.field "style"], .notListed⟩, ⟨[.field "level"], .tooSmall⟩] := by
  have hbounds : ¬ (1 ≤ depth.toNat ∧ depth.toNat ≤ 6) := by omega
  simp only [levelOf, Level.ofNat?, dif_neg hbounds, if_pos low]

theorem levelOf_of_gt (high : 6 < depth) :
    levelOf depth = .error [⟨[.field "style"], .notListed⟩, ⟨[.field "level"], .tooLarge⟩] := by
  have hbounds : ¬ (1 ≤ depth.toNat ∧ depth.toNat ≤ 6) := by omega
  have hlow : ¬ depth < 1 := by omega
  simp only [levelOf, Level.ofNat?, dif_neg hbounds, if_neg hlow]

theorem refusal?_heading (kind : n.kind = .heading) : n.refusal? = some e ↔ n.Refused e := by
  unfold Node.refusal?
  simp only [kind]
  constructor
  · intro h
    cases tag : tagNumber? n with
    | none =>
      rw [tag] at h
      obtain rfl := Option.some.inj h
      exact .unreadable kind tag
    | some depth =>
      rw [tag] at h
      obtain ⟨issues, hissues, rfl⟩ := refusalOf_eq_some_iff.mp h
      -- a number is too small, too large, or a level
      by_cases low : depth < 1
      · rw [levelOf_of_lt low] at hissues
        cases hissues
        exact .shallow kind tag low
      · by_cases high : 6 < depth
        · rw [levelOf_of_gt high] at hissues
          cases hissues
          exact .deep kind tag high
        · have hbounds : 1 ≤ depth ∧ depth ≤ 6 := by omega
          obtain ⟨level, hlevel⟩ := exists_levelOf hbounds.1 hbounds.2
          rw [hlevel] at hissues
          cases hissues
  · intro h
    cases h with
    | unreadable _ tag => rw [tag]
    | shallow _ tag low =>
      rw [tag]
      exact refusalOf_eq_some_iff.mpr ⟨_, levelOf_of_lt low, rfl⟩
    | deep _ tag high =>
      rw [tag]
      exact refusalOf_eq_some_iff.mpr ⟨_, levelOf_of_gt high, rfl⟩
    | address kind' | caption kind' | keyword kind' =>
      -- these speak of other kinds of node
      rw [kind] at kind'
      cases kind'

/-! ### Paragraphs -/

theorem caption_eq_error_iff {issues : List Issue} :
    caption i = .error issues ↔
      ∃ title, i.attrs.lookup "title" = some title ∧ title.truthy = true ∧
        (∀ s, title ≠ .str s) ∧ [⟨[.field "caption"], .notText⟩] = issues := by
  unfold caption
  cases i.attrs.lookup "title" with
  | none => simp
  | some title =>
    cases htruthy : title.truthy <;> cases title <;> simp [htruthy]

theorem address?_eq_none_iff :
    address? i = none ↔ ∃ source, i.attrs.lookup "src" = some source ∧
      ∃ number ∈ source.numbers, Json.TooLong number := by
  unfold address?
  cases i.attrs.lookup "src" with
  | none => simp
  | some source => simp [Json.prose?_eq_none_iff]

/-- An image is refused for its address, and only if that can be written for its caption. -/
theorem imageRefusal?_eq_some_iff :
    i.imageRefusal? = some e ↔
      address? i = none ∧ .unwritableAddress = e ∨
      address? i ≠ none ∧ ∃ issues, caption i = .error issues ∧ .invalid issues = e := by
  unfold Node.imageRefusal?
  cases address? i with
  | none => simp
  | some address => simp [refusalOf_eq_some_iff]

theorem refusal?_paragraph (kind : n.kind = .paragraph) : n.refusal? = some e ↔ n.Refused e := by
  unfold Node.refusal?
  simp only [kind, Option.bind_eq_some_iff, loneImage?_eq_some_iff, imageRefusal?_eq_some_iff,
    ne_eq, address?_eq_none_iff, caption_eq_error_iff]
  constructor
  · rintro ⟨i, ⟨lone, image⟩, ⟨⟨source, given, number, mem, long⟩, rfl⟩ |
      ⟨hwritable, _, ⟨title, given, truthy, notText, rfl⟩, rfl⟩⟩
    · exact .address kind lone image given mem long
    · refine .caption kind lone image (fun source hsource number hmem hlong => ?_) given truthy
        notText
      exact hwritable ⟨source, hsource, number, hmem, hlong⟩
  · intro h
    cases h with
    | address _ lone image given mem long =>
      exact ⟨_, ⟨lone, image⟩, .inl ⟨⟨_, given, _, mem, long⟩, rfl⟩⟩
    | caption _ lone image writable given truthy notText =>
      refine ⟨_, ⟨lone, image⟩, .inr ⟨?_, _, ⟨_, given, truthy, notText, rfl⟩, rfl⟩⟩
      rintro ⟨source, hsource, number, hmem, hlong⟩
      exact writable source hsource number hmem hlong
    | unreadable kind' | shallow kind' | deep kind' | keyword kind' =>
      rw [kind] at kind'
      cases kind'

/-! ### Quotations -/

theorem trigger_refusal?_eq_some_iff {t : Trigger} :
    t.refusal? = some e ↔ t.kind? = none ∧ .invalid [⟨[.field "kind"], .notListed⟩] = e := by
  unfold Trigger.refusal?
  cases t.kind? <;> simp

theorem refusal?_blockquote (kind : n.kind = .blockquote) :
    n.refusal? = some e ↔ n.Refused e := by
  unfold Node.refusal?
  simp only [kind, Trigger.of?, Option.bind_eq_some_iff, trigger_refusal?_eq_some_iff,
    Trigger.ofLine?_eq_some_iff, Trigger.kind?_eq_none_iff]
  constructor
  · rintro ⟨trigger, ⟨line, first, like, rest, opens, counts, -⟩, unlisted, rfl⟩
    exact .keyword kind first opens counts unlisted
  · intro h
    cases h with
    | keyword _ first opens counts unlisted =>
      exact ⟨⟨_, _⟩, ⟨_, first, _, _, opens, counts, rfl⟩, unlisted, rfl⟩
    | unreadable kind' | shallow kind' | deep kind' | address kind' | caption kind' =>
      rw [kind] at kind'
      cases kind'

/-! ### Nodes and documents -/

/-- **The nodes that cannot become blocks**, and why. -/
theorem refusal?_eq_some_iff : n.refusal? = some e ↔ n.Refused e := by
  by_cases hkind : n.kind = .heading ∨ n.kind = .paragraph ∨ n.kind = .blockquote
  · rcases hkind with kind | kind | kind
    · exact refusal?_heading kind
    · exact refusal?_paragraph kind
    · exact refusal?_blockquote kind
  · -- no other node is refused, and no constructor speaks of one
    have hnone : n.refusal? = none := by
      unfold Node.refusal?
      split <;> first | rfl | simp_all
    rw [hnone]
    refine ⟨nofun, fun h => ?_⟩
    exfalso
    apply hkind
    cases h with
    | unreadable kind | shallow kind | deep kind => exact .inl kind
    | address kind | caption kind => exact .inr (.inl kind)
    | keyword kind => exact .inr (.inr kind)

theorem refusal?_eq_none_iff : n.refusal? = none ↔ ∀ e, ¬ n.Refused e := by
  simp only [Option.eq_none_iff_forall_ne_some, ne_eq, refusal?_eq_some_iff]

/-- A document has a first node that is refused, or none. -/
theorem findSome?_refusal?_eq_some_iff {ns : List Node} :
    ns.findSome? Node.refusal? = some e ↔
      ∃ before n after, ns = before ++ n :: after ∧ (∀ m ∈ before, ∀ e', ¬ m.Refused e') ∧
        n.Refused e := by
  simp only [List.findSome?_eq_some_iff, refusal?_eq_some_iff, refusal?_eq_none_iff]
  constructor
  · rintro ⟨before, n, after, rfl, hn, hbefore⟩
    exact ⟨before, n, after, rfl, hbefore, hn⟩
  · rintro ⟨before, n, after, rfl, hbefore, hn⟩
    exact ⟨before, n, after, rfl, hn, hbefore⟩

end Conversion

open Conversion

/-- **The documents that cannot be converted**, given a source that never fails: those with a node
that is refused. The first of them decides on the failure; and every document without one is
converted. -/
theorem fails_iff_refused {source : Key.Source} (hs : ∀ i, ∃ key, source i = .ok key)
    (ns : List Node) (start : Nat) :
    (∀ e, (convert ns).run source start = .error e ↔
      ∃ before n after, ns = before ++ n :: after ∧ (∀ m ∈ before, ∀ e', ¬ m.Refused e') ∧
        n.Refused e) ∧
    ((∃ bs stop, (convert ns).run source start = .ok (bs, stop)) ↔
      ∀ n ∈ ns, ∀ e, ¬ n.Refused e) := by
  have hnone : (∀ n ∈ ns, ∀ e, ¬ n.Refused e) ↔ ns.findSome? Node.refusal? = none := by
    simp only [List.findSome?_eq_none_iff, refusal?_eq_none_iff]
  simp only [hnone, ← findSome?_refusal?_eq_some_iff]
  have hanswers : Answers source start (callsOf ns) := fun i _ => hs (start + i)
  obtain ⟨hr, bs, hrun⟩ | ⟨first, hr, hrun⟩ := run_convert_cases hanswers
  · -- no node is refused, and the conversion has a result
    rw [hr, hrun]
    constructor
    · intro e
      exact ⟨nofun, nofun⟩
    · exact ⟨fun _ => rfl, fun _ => ⟨bs, _, rfl⟩⟩
  · rw [hr, hrun]
    constructor
    · intro e
      rw [Except.error.injEq, Option.some.injEq]
    · constructor
      · rintro ⟨_, _, h⟩
        cases h
      · exact nofun

/-- A keyword with a dotless i counts as a name and is none. The separator before it is converted,
and the heading after it, which would be refused too, is not looked at. -/
theorem fails_at_dotless_keyword :
    (∀ i, ∃ key, Key.Source.counted i = .ok key) ∧
    (convert
        [.plain .thematicBreak "" [],
          .plain .blockquote ""
            [.plain .paragraph "" [.plain .container " **ınfo**: a\nb" []]],
          ⟨.heading, "hx", "", "", [], []⟩]).run Key.Source.counted 0 =
      .error (.invalid [⟨[.field "kind"], .notListed⟩]) := by
  have hs : ∀ i, ∃ key, Key.Source.counted i = .ok key := fun i => ⟨_, rfl⟩
  refine ⟨hs, ((fails_iff_refused hs _ 0).1 _).mpr ⟨[_], _, [_], rfl, ?_, ?_⟩⟩
  · intro m hm
    obtain rfl := List.mem_singleton.mp hm
    exact refusal?_eq_none_iff.mp rfl
  · have opens : Trigger.Opens (Text.strip " **ınfo**: a".toList) "ınfo".toList ": a".toList := rfl
    have counts : Trigger.CountsAs "ınfo".toList .info := by decide
    have unlisted : ∀ k : HighlightKind, Text.lower "ınfo".toList ≠ k.name.toList := by
      intro k
      cases k <;> decide
    exact .keyword rfl rfl opens counts unlisted

/-- A paragraph with nothing but an image in it, whose source is the least number that is too long
to be written. -/
def imageOfLongNumber : Node :=
  .plain .paragraph ""
    [.plain .container ""
      [⟨.image, "img", "", "", [("src", .int (.ofNat (Nat.pow 10 Text.maxDigits)))], []⟩]]

/-- A document may fail although no heading, no title of an image and no quotation is in it. -/
theorem not_refused_by_levels_titles_and_keywords_alone :
    ¬ ∀ ns : List Node, (∃ e, (convert ns).run Key.Source.counted 0 = .error e) →
      ∃ n ∈ ns, n.kind = .heading ∨ n.kind = .blockquote ∨
        n.kind = .paragraph ∧ ∃ i ∈ containerNodes n.container?, i.attrs.lookup "title" ≠ none := by
  intro h
  have long : Json.TooLong (.ofNat (Nat.pow 10 Text.maxDigits)) :=
    Nat.le_of_eq (Int.natAbs_natCast _).symm
  have hrefused : imageOfLongNumber.Refused .unwritableAddress :=
    .address rfl rfl rfl rfl List.mem_cons_self long
  have hrefusal : [imageOfLongNumber].findSome? Node.refusal? = some .unwritableAddress := by
    rw [List.findSome?_cons, refusal?_eq_some_iff.mpr hrefused]
  have hanswers : Answers Key.Source.counted 0 (callsOf [imageOfLongNumber]) := fun i _ => ⟨_, rfl⟩
  -- the document fails, and whatever is in it is a paragraph with one image without a title
  obtain ⟨hnone, -⟩ | ⟨e, -, hrun⟩ := run_convert_cases hanswers
  · rw [hrefusal] at hnone
    cases hnone
  · obtain ⟨n, hn, kind⟩ := h _ ⟨e, hrun⟩
    obtain rfl := List.mem_singleton.mp hn
    obtain kind | kind | ⟨-, i, hi, htitle⟩ := kind
    · cases kind
    · cases kind
    · obtain rfl := List.mem_singleton.mp hi
      exact htitle rfl

end ContentBlocks
