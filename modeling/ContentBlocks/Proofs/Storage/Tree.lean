import ContentBlocks.Storage.Disk
import Mathlib.Data.List.Nodup

/-!
# What stands at a place

A tree of folders and files is looked at through the places in it: at each of them there is nothing,
a folder, or a file with its bytes. Putting a file or an empty folder into a folder changes what
stands at its own place and nothing else. The names in a folder are proper and differ from each
other, and then the places that a walk over the tree finds are those where something stands.

## Main definitions

* `Content`, `Entry.content?`: what stands at a place
* `Entry.WellFormed`: the names in every folder are proper and distinct

## Main results

* `content?_putAt`: what stands where after a file or a folder was put into a folder
* `mem_places_iff`, `nodup_places`: the places of a well-formed tree
-/

namespace ContentBlocks.Storage

/-- What stands at a place: a folder, or a file with its bytes. -/
inductive Content where
  | folder
  | file (bytes : List UInt8)
  deriving DecidableEq

/-- The bytes of a file. -/
def Content.bytes? : Content → Option (List UInt8)
  | .folder => none
  | .file bytes => some bytes

namespace Entry

/-- An entry without what is below it. -/
def content : Entry → Content
  | .file bytes => .file bytes
  | .folder _ => .folder

/-- What stands at a place below, if there is anything. -/
def content? (e : Entry) (place : List String) : Option Content := (e.at? place).map content

/-! ### Entries of a folder -/

theorem lookup_cons_of_ne {name n : String} (h : n ≠ name) (e : Entry)
    (es : List (String × Entry)) : ((name, e) :: es).lookup n = es.lookup n := by
  rw [List.lookup_cons, beq_eq_false_iff_ne.mpr h]

theorem lookup_set (name n : String) (e : Entry) (es : List (String × Entry)) :
    (set name e es).lookup n = if n = name then some e else es.lookup n := by
  induction es with
  | nil =>
    by_cases h : n = name
    · simp [set, h]
    · rw [set, lookup_cons_of_ne h, if_neg h]
  | cons entry rest ih =>
    obtain ⟨m, old⟩ := entry
    by_cases hm : m = name
    · subst hm
      by_cases h : n = m
      · simp [set, h]
      · rw [set, if_pos rfl, lookup_cons_of_ne h, lookup_cons_of_ne h, if_neg h]
    · rw [set, if_neg hm]
      by_cases h : n = m
      · subst h
        simp [hm]
      · rw [lookup_cons_of_ne h, lookup_cons_of_ne h, ih]

theorem at?_append (e : Entry) (place below : List String) :
    e.at? (place ++ below) = (e.at? place).bind (at? below) := by
  induction place generalizing e with
  | nil => rfl
  | cons name rest ih =>
    rw [List.cons_append, at?, at?, Option.bind_assoc]
    exact Option.bind_congr fun e' _ => ih e'

theorem at?_of_children_eq_nil {e : Entry} (h : e.children = []) (name : String)
    (rest : List String) : e.at? (name :: rest) = none := by
  rw [at?, h]
  rfl

theorem content?_eq_folder_iff {e : Entry} {place : List String} :
    e.content? place = some .folder ↔ ∃ es, e.at? place = some (.folder es) := by
  unfold content?
  rcases e.at? place with _ | _ | es <;> simp [content]

theorem content?_append (e : Entry) (place below : List String) :
    e.content? (place ++ below) = (e.at? place).bind fun e' => e'.content? below := by
  rw [content?, at?_append, Option.map_bind]
  rfl

/-- Something stands at a place only if the place around it is a folder. -/
theorem content?_parent {e : Entry} {parent : List String} {name : String}
    (h : e.content? (parent ++ [name]) ≠ none) : e.content? parent = some .folder := by
  rw [content?_append] at h
  cases hp : e.at? parent with
  | none => simp [hp] at h
  | some e' =>
    cases e' with
    | file bytes => simp [hp, content?, at?, children] at h
    | folder es => simp [content?, hp, content]

/-- Putting something with nothing below it into a folder, where no folder stands, changes what
stands at its own place and nothing else. -/
theorem content?_putAt {e new : Entry} {parent : List String} {name : String}
    (hnew : new.children = []) (hparent : e.content? parent = some .folder)
    (hold : e.content? (parent ++ [name]) ≠ some .folder) (place : List String) :
    (e.putAt (parent ++ [name]) new).content? place =
      if place = parent ++ [name] then some new.content else e.content? place := by
  -- induction on the way to the folder; the steps before the last one only pass through
  induction parent generalizing e place with
  | nil =>
    obtain ⟨es, he⟩ := content?_eq_folder_iff.mp hparent
    obtain rfl : e = .folder es := Option.some.inj he
    cases place with
    | nil => simp [content?, at?, putAt, content]
    | cons n rest =>
      simp only [content?, List.nil_append, putAt, at?, children, lookup_set] at hold ⊢
      by_cases hn : n = name
      · subst hn
        cases rest with
        | nil => simp [at?]
        | cons m rest =>
          -- nothing is below what is put there, nor below what stood there
          have hbelow : ((es.lookup n).bind fun e' => e'.at? (m :: rest)) = none := by
            cases hl : es.lookup n with
            | none => rfl
            | some old =>
              cases old with
              | file bytes => rfl
              | folder es' => simp [hl, content] at hold
          simp [at?_of_children_eq_nil hnew, hbelow]
      · simp [hn]
  | cons m ms ih =>
    cases hm : e.children.lookup m with
    | none => simp [content?, at?, hm] at hparent
    | some e' =>
      have hin : ∀ below, e.content? (m :: below) = e'.content? below := fun below => by
        rw [content?, at?, hm]
        rfl
      rw [hin] at hparent
      rw [List.cons_append, hin] at hold
      cases place with
      | nil =>
        cases e with
        | file bytes => simp [children] at hm
        | folder es => simp [content?, at?, putAt, content]
      | cons n rest =>
        by_cases hn : n = m
        · subst hn
          have hput : (e.putAt (n :: (ms ++ [name])) new).content? (n :: rest) =
              (e'.putAt (ms ++ [name]) new).content? rest := by
            simp only [content?, putAt, at?, hm, Option.getD_some]
            rw [children, lookup_set, if_pos rfl, Option.bind_some]
          rw [List.cons_append, hput, ih hparent hold, hin]
          simp
        · have hother : (e.putAt (m :: (ms ++ [name])) new).content? (n :: rest) =
              e.content? (n :: rest) := by
            simp [content?, putAt, at?, children, lookup_set, hn]
          rw [List.cons_append, hother, if_neg (by simp [hn])]

/-! ### Well-formed trees -/

/-- A name that an entry can have. -/
structure IsName (name : String) : Prop where
  ne_empty : name ≠ ""
  ne_here : name ≠ "."
  ne_up : name ≠ ".."
  slash : '/' ∉ name.toList
  zero : '\x00' ∉ name.toList
  size_le : name.utf8ByteSize ≤ Disk.maxNameSize

instance : DecidablePred IsName := fun name =>
  decidable_of_iff (name ≠ "" ∧ name ≠ "." ∧ name ≠ ".." ∧ '/' ∉ name.toList ∧
      '\x00' ∉ name.toList ∧ name.utf8ByteSize ≤ Disk.maxNameSize)
    ⟨fun ⟨h₁, h₂, h₃, h₄, h₅, h₆⟩ => ⟨h₁, h₂, h₃, h₄, h₅, h₆⟩,
      fun ⟨h₁, h₂, h₃, h₄, h₅, h₆⟩ => ⟨h₁, h₂, h₃, h₄, h₅, h₆⟩⟩

mutual

/-- The names in every folder are proper, and no two entries of a folder have one name. -/
def WellFormed : Entry → Prop
  | .file _ => True
  | .folder es => (es.map Prod.fst).Nodup ∧ AllWellFormed es

/-- Entries with proper names, that are well formed themselves. -/
def AllWellFormed : List (String × Entry) → Prop
  | [] => True
  | (name, e) :: rest => IsName name ∧ WellFormed e ∧ AllWellFormed rest

end

mutual

/-- Whether a tree is well formed. -/
def decideWellFormed : (e : Entry) → Decidable e.WellFormed
  | .file _ => .isTrue trivial
  | .folder es =>
    have := decideAllWellFormed es
    inferInstanceAs (Decidable ((es.map Prod.fst).Nodup ∧ AllWellFormed es))

/-- Whether entries are well formed. -/
def decideAllWellFormed : (es : List (String × Entry)) → Decidable (AllWellFormed es)
  | [] => .isTrue trivial
  | (name, e) :: rest =>
    have := decideWellFormed e
    have := decideAllWellFormed rest
    inferInstanceAs (Decidable (IsName name ∧ WellFormed e ∧ AllWellFormed rest))

end

instance : DecidablePred WellFormed := decideWellFormed

theorem allWellFormed_iff {es : List (String × Entry)} :
    AllWellFormed es ↔ ∀ entry ∈ es, IsName entry.1 ∧ entry.2.WellFormed := by
  induction es with
  | nil => simp [AllWellFormed]
  | cons entry rest ih =>
    obtain ⟨name, e⟩ := entry
    simp [AllWellFormed, ih, and_assoc]

theorem mem_of_lookup {es : List (String × Entry)} {name : String} {e : Entry}
    (h : es.lookup name = some e) : (name, e) ∈ es := by
  obtain ⟨before, after, rfl, -⟩ := List.lookup_eq_some_iff.mp h
  exact List.mem_append_right _ List.mem_cons_self

/-- What stands below a well-formed tree is well formed, and its place is made of names. -/
theorem WellFormed.at? {e e' : Entry} (he : e.WellFormed) {place : List String}
    (h : e.at? place = some e') : e'.WellFormed ∧ ∀ name ∈ place, IsName name := by
  induction place generalizing e with
  | nil =>
    obtain rfl := Option.some.inj h
    exact ⟨he, by simp⟩
  | cons name rest ih =>
    obtain ⟨child, hchild, hbelow⟩ := Option.bind_eq_some_iff.mp h
    cases e with
    | file bytes => cases hchild
    | folder es =>
      obtain ⟨hname, hwf⟩ := allWellFormed_iff.mp he.2 _ (mem_of_lookup hchild)
      obtain ⟨hwf', hnames⟩ := ih hwf hbelow
      exact ⟨hwf', List.forall_mem_cons.mpr ⟨hname, hnames⟩⟩

mutual

/-- The places of a well-formed tree are those below it where something stands. -/
theorem mem_places_iff : (e : Entry) → e.WellFormed → ∀ place,
    place ∈ e.places ↔ place ≠ [] ∧ (e.at? place).isSome
  | .file bytes, _, place => by
    cases place <;> simp [places, Entry.at?, children]
  | .folder es, h, place => by
    rw [places, mem_placesIn_iff es h.1 h.2 place]
    cases place with
    | nil => simp
    | cons name rest => simp [Entry.at?, children]

theorem mem_placesIn_iff : (es : List (String × Entry)) → (es.map Prod.fst).Nodup →
    AllWellFormed es → ∀ place, place ∈ placesIn es ↔
      ∃ name rest, place = name :: rest ∧ ((es.lookup name).bind (at? rest)).isSome
  | [], _, _, place => by simp [placesIn]
  | (n, e) :: es, hnodup, h, place => by
    rw [List.map_cons, List.nodup_cons] at hnodup
    have hhead := mem_places_iff e h.2.1
    have htail := mem_placesIn_iff es hnodup.2 h.2.2 place
    rw [placesIn, List.mem_append, List.mem_cons, List.mem_map, htail]
    constructor
    · rintro ((rfl | ⟨below, hbelow, rfl⟩) | ⟨name, rest, rfl, hsome⟩)
      · exact ⟨n, [], rfl, by simp [Entry.at?]⟩
      · exact ⟨n, below, rfl, by simpa using ((hhead below).mp hbelow).2⟩
      · -- the first entry hides none of the others, since none has its name
        have hne : name ≠ n := by
          rintro rfl
          obtain ⟨e', he'⟩ := Option.isSome_iff_exists.mp (Option.isSome_of_isSome_bind hsome)
          exact hnodup.1 (List.mem_map.mpr ⟨_, mem_of_lookup he', rfl⟩)
        exact ⟨name, rest, rfl, by rwa [lookup_cons_of_ne hne]⟩
    · rintro ⟨name, rest, rfl, hsome⟩
      by_cases hn : name = n
      · subst hn
        rw [List.lookup_cons_self] at hsome
        cases rest with
        | nil => exact .inl (.inl rfl)
        | cons m rest => exact .inl (.inr ⟨_, (hhead _).mpr ⟨by simp, hsome⟩, rfl⟩)
      · rw [lookup_cons_of_ne hn] at hsome
        exact .inr ⟨name, rest, rfl, hsome⟩

end

mutual

/-- A walk over a well-formed tree comes to every place once. -/
theorem nodup_places : (e : Entry) → e.WellFormed → e.places.Nodup
  | .file _, _ => .nil
  | .folder es, h => nodup_placesIn es h.1 h.2

theorem nodup_placesIn : (es : List (String × Entry)) → (es.map Prod.fst).Nodup →
    AllWellFormed es → (placesIn es).Nodup
  | [], _, _ => .nil
  | (n, e) :: es, hnodup, h => by
    rw [List.map_cons, List.nodup_cons] at hnodup
    have hbelow : (e.places.map (n :: ·)).Nodup :=
      (nodup_places e h.2.1).map (List.cons_injective)
    have hown : [n] ∉ e.places.map (n :: ·) := by
      intro hn
      obtain ⟨below, hmem, hn⟩ := List.mem_map.mp hn
      obtain rfl : below = [] := List.cons_injective hn
      exact ((mem_places_iff e h.2.1 []).mp hmem).1 rfl
    rw [placesIn, List.nodup_append]
    refine ⟨List.nodup_cons.mpr ⟨hown, hbelow⟩, nodup_placesIn es hnodup.2 h.2.2, ?_⟩
    -- the places on the two sides differ in their first name
    rintro place hplace _ hrest rfl
    obtain ⟨name, rest, rfl, hsome⟩ := (mem_placesIn_iff es hnodup.2 h.2.2 _).mp hrest
    obtain ⟨e', he'⟩ := Option.isSome_iff_exists.mp (Option.isSome_of_isSome_bind hsome)
    obtain rfl : name = n := by
      rcases List.mem_cons.mp hplace with heq | hmem
      · exact (List.cons.inj heq).1
      · obtain ⟨below, -, heq⟩ := List.mem_map.mp hmem
        exact (List.cons.inj heq).1.symm
    exact hnodup.1 (List.mem_map.mpr ⟨_, mem_of_lookup he', rfl⟩)

end

end Entry

end ContentBlocks.Storage
