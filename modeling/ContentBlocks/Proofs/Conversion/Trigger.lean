import ContentBlocks.Conversion.Highlight
import ContentBlocks.Proofs.Text.Pieces

/-!
# What a trigger is

A line is a trigger if it begins with a keyword between double asterisks that counts as the name of
a kind when case is ignored. No two kinds can be read from one line, since no name has an asterisk
in it; so the order in which the kinds are tried does not matter. Case is ignored more loosely than
letters are made small: a keyword can count as a name and still not be that name in small letters.

## Main definitions

* `Trigger.Opens line keyword rest`: a line is a keyword between double asterisks, and a rest

## Main results

* `Trigger.ofLine?_eq_some_iff`: the trigger that a line is
* `Trigger.kind?_eq_none_iff`: the keywords that name no kind
-/

namespace ContentBlocks

namespace Text

variable {cs rest : List Char}

theorem afterKeyword?_append (keyword rest : List Char) :
    afterKeyword? (keyword.map fold) (keyword ++ rest) = some rest := by
  induction keyword with
  | nil => rfl
  | cons c keyword ih => rw [List.map_cons, List.cons_append, afterKeyword?, if_pos rfl, ih]

/-- What follows a keyword follows as many characters that count as its letters. -/
theorem afterKeyword?_eq_some_iff {word : List Char} :
    afterKeyword? word cs = some rest ↔
      ∃ keyword, cs = keyword ++ rest ∧ keyword.map fold = word := by
  refine ⟨fun h => ?_, ?_⟩
  · induction word generalizing cs with
    | nil => exact ⟨[], Option.some.inj h, rfl⟩
    | cons k word ih =>
      cases cs with
      | nil => cases h
      | cons c cs =>
        rw [afterKeyword?] at h
        split at h
        · next hk =>
          obtain ⟨keyword, rfl, rfl⟩ := ih h
          exact ⟨c :: keyword, rfl, by rw [List.map_cons, hk]⟩
        · cases h
  · rintro ⟨keyword, rfl, rfl⟩
    exact afterKeyword?_append keyword rest

end Text

namespace Trigger

open Text

variable {line keyword keyword' rest rest' : List Char} {kind : HighlightKind} {t t' : Trigger}

/-- A line that begins with a keyword between double asterisks. -/
def Opens (line keyword rest : List Char) : Prop :=
  line = ['*', '*'] ++ (keyword ++ (['*', '*'] ++ rest))

/-- A keyword counts as the name of a kind when case is ignored. -/
def CountsAs (keyword : List Char) (kind : HighlightKind) : Prop :=
  keyword.map fold = kind.name.toList

instance : Decidable (CountsAs keyword kind) := inferInstanceAs (Decidable (_ = _))

/-- No name has an asterisk in it, and nothing else counts as one. -/
theorem CountsAs.star_not_mem (h : CountsAs keyword kind) : '*' ∉ keyword := by
  intro hstar
  have hmem : '*' ∈ kind.name.toList := h ▸ List.mem_map.mpr ⟨'*', hstar, by decide⟩
  revert hmem
  cases kind <;> decide

/-- A keyword ends at the next asterisk. -/
theorem Opens.takeWhile_eq (h : Opens line keyword rest) (hstar : '*' ∉ keyword) :
    (line.drop 2).takeWhile (· ≠ '*') = keyword := by
  have hkeyword : ∀ c ∈ keyword, decide (c ≠ '*') = true := fun c hc =>
    decide_eq_true fun heq => hstar (heq ▸ hc)
  subst h
  exact (List.takeWhile_append_of_pos hkeyword).trans (List.append_nil keyword)

/-- A line opens with one keyword only. -/
theorem Opens.unique (h : Opens line keyword rest) (h' : Opens line keyword' rest')
    (hstar : '*' ∉ keyword) (hstar' : '*' ∉ keyword') : keyword = keyword' ∧ rest = rest' := by
  obtain rfl : keyword = keyword' := (h.takeWhile_eq hstar).symm.trans (h'.takeWhile_eq hstar')
  have hrest : keyword ++ (['*', '*'] ++ rest) = keyword ++ (['*', '*'] ++ rest') :=
    List.append_cancel_left (h.symm.trans h')
  exact ⟨rfl, List.append_cancel_left (List.append_cancel_left hrest)⟩

theorem afterStars?_eq_some_iff {word : List Char} :
    afterStars? word line = some rest ↔
      ∃ keyword, Opens line keyword rest ∧ keyword.map fold = word := by
  simp only [afterStars?, Option.bind_eq_bind, Option.bind_eq_some_iff, after?_eq_some_iff,
    afterKeyword?_eq_some_iff]
  constructor
  · rintro ⟨_, rfl, _, ⟨keyword, rfl, hword⟩, rfl⟩
    exact ⟨keyword, rfl, hword⟩
  · rintro ⟨keyword, rfl, hword⟩
    exact ⟨_, rfl, _, ⟨keyword, rfl, hword⟩, rfl⟩

theorem ofKind?_eq_some_iff :
    ofKind? line kind = some t ↔
      ∃ rest, Opens line t.keyword rest ∧ CountsAs t.keyword kind ∧ t.title = titleOf rest := by
  -- the keyword is cut out of the line again, by its length
  have hcut : ∀ {keyword rest}, Opens line keyword rest → CountsAs keyword kind →
      (line.drop 2).take kind.name.toList.length = keyword := by
    intro keyword rest hopens hcounts
    rw [← hcounts, List.length_map, hopens]
    exact List.take_left
  simp only [ofKind?, Option.map_eq_some_iff, afterStars?_eq_some_iff]
  constructor
  · rintro ⟨rest, ⟨keyword, hopens, hcounts⟩, rfl⟩
    refine ⟨rest, ?_, ?_, rfl⟩ <;> rw [hcut hopens hcounts]
    · exact hopens
    · exact hcounts
  · rintro ⟨rest, hopens, hcounts, htitle⟩
    refine ⟨rest, ⟨t.keyword, hopens, hcounts⟩, ?_⟩
    rw [hcut hopens hcounts, ← htitle]

/-- From one line only one trigger is read, whatever the kind. -/
theorem ofKind?_unique {kind' : HighlightKind} (h : ofKind? line kind = some t)
    (h' : ofKind? line kind' = some t') : t = t' := by
  obtain ⟨keyword, title⟩ := t
  obtain ⟨keyword', title'⟩ := t'
  obtain ⟨rest, hopens, hcounts, rfl⟩ := ofKind?_eq_some_iff.mp h
  obtain ⟨rest', hopens', hcounts', rfl⟩ := ofKind?_eq_some_iff.mp h'
  obtain ⟨rfl, rfl⟩ := hopens.unique hopens' hcounts.star_not_mem hcounts'.star_not_mem
  rfl

theorem mem_allKinds (kind : HighlightKind) : kind ∈ HighlightKind.all := by
  cases kind <;> decide

/-- **The trigger that a line is**: a keyword that counts as the name of a kind, and the title after
it. -/
theorem ofLine?_eq_some_iff :
    ofLine? line = some t ↔
      ∃ kind rest, Opens line t.keyword rest ∧ CountsAs t.keyword kind ∧
        t.title = titleOf rest := by
  constructor
  · intro h
    obtain ⟨kind, -, hkind⟩ := List.exists_of_findSome?_eq_some h
    exact ⟨kind, ofKind?_eq_some_iff.mp hkind⟩
  · rintro ⟨kind, hrest⟩
    have hkind : ofKind? line kind = some t := ofKind?_eq_some_iff.mpr hrest
    cases h : ofLine? line with
    | none =>
      rw [List.findSome?_eq_none_iff.mp h kind (mem_allKinds kind)] at hkind
      cases hkind
    | some t' =>
      obtain ⟨kind', -, hkind'⟩ := List.exists_of_findSome?_eq_some h
      rw [ofKind?_unique hkind hkind']

/-- **The keywords that name no kind**: those that are no name in small letters. -/
theorem kind?_eq_none_iff :
    t.kind? = none ↔ ∀ kind : HighlightKind, lower t.keyword ≠ kind.name.toList := by
  rw [kind?, List.find?_eq_none]
  have hname : ∀ kind : HighlightKind,
      kind.name == t.word ↔ lower t.keyword = kind.name.toList := by
    intro kind
    rw [beq_iff_eq, word, ← String.toList_inj, String.toList_ofList, eq_comm]
  exact ⟨fun h kind hk => h kind (mem_allKinds kind) ((hname kind).mpr hk),
    fun h kind _ hk => h kind ((hname kind).mp hk)⟩

end Trigger

end ContentBlocks
