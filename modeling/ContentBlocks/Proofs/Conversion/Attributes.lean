import ContentBlocks.Proofs.Conversion.InfoLine
import ContentBlocks.Proofs.Text.Pieces

/-!
# The file name of a fence

Behind the language an info line may name a file: the value of the first attribute in it, which
stands between two marks of one kind or is bare. The search looks at every place in turn, and the
marks are tried before the bare value, so that what is read is said by where a name stands, what
begins behind it, and that nothing begins further in front. An attribute that was written is read
back from this. But a name is found also at the end of a longer one, and inside a value.

## Main definitions

* `Begins value text`: a text begins with a value
* `FirstAttribute cs before name behind value`: the first attribute in a text
* `Written value text`: a text is a value as it is written, with what may follow
* `ExactlyNamed cs value`: a value is that of an attribute of exactly one of the names

## Main results

* `attributeValue?_eq_some_iff`: a value is read exactly where a text begins with it
* `findAttribute?_eq_some_iff`: the search finds the first attribute
* `attribute_read_back`: a written attribute is read back
* `filename_of_first_attribute`: where the file name of a fence comes from
-/

namespace ContentBlocks

open Conversion
open Text (dropEndWhile isBlank)

namespace FenceInfo

variable {mark : Char} {cs rest value before name behind written : List Char}

/-! ### Values -/

/-- The marks that a value may stand between. -/
def quoteMarks : List Char := ['"', '\'']

/-- A text begins with a value: it stands between two marks of one kind, or it is the first word of
the text, which opens with no mark that is closed again. -/
inductive Begins (value : List Char) : List Char → Prop where
  | enclosed {mark : Char} {rest : List Char} (quote : mark ∈ quoteMarks) (free : mark ∉ value) :
      Begins value (mark :: (value ++ mark :: rest))
  | bare {rest : List Char} (word : IsPiece (fun c => !isBlank c) value)
      (ends : ∀ c ∈ rest.head?, isBlank c = true)
      (unclosed : ∀ mark ∈ quoteMarks, value.head? = some mark → mark ∉ value.tail ++ rest) :
      Begins value (value ++ rest)

theorem enclosed?_eq_some_iff :
    enclosed? mark cs = some value ↔ ∃ rest, cs = value ++ mark :: rest ∧ mark ∉ value := by
  induction cs generalizing value with
  | nil => simp [enclosed?]
  | cons c cs ih =>
    rw [enclosed?]
    by_cases hc : c = mark
    · -- the text ends here, and what is in front of the mark is empty
      subst hc
      rw [if_pos rfl, Option.some.injEq]
      constructor
      · rintro rfl
        exact ⟨cs, rfl, List.not_mem_nil⟩
      · rintro ⟨rest, heq, hfree⟩
        cases value with
        | nil => rfl
        | cons d value =>
          obtain ⟨rfl, -⟩ := List.cons.inj heq
          exact absurd List.mem_cons_self hfree
    · rw [if_neg hc, Option.map_eq_some_iff]
      constructor
      · rintro ⟨value, hvalue, rfl⟩
        obtain ⟨rest, rfl, hfree⟩ := ih.mp hvalue
        exact ⟨rest, rfl, by simp [Ne.symm hc, hfree]⟩
      · rintro ⟨rest, heq, hfree⟩
        cases value with
        | nil =>
          obtain ⟨rfl, -⟩ := List.cons.inj heq
          exact absurd rfl hc
        | cons d value =>
          obtain ⟨rfl, rfl⟩ := List.cons.inj heq
          rw [List.mem_cons, not_or] at hfree
          exact ⟨value, ih.mpr ⟨rest, rfl, hfree.2⟩, rfl⟩

theorem enclosed?_eq_none (h : mark ∉ cs) : enclosed? mark cs = none := by
  rw [Option.eq_none_iff_forall_ne_some]
  intro value hvalue
  obtain ⟨rest, rfl, -⟩ := enclosed?_eq_some_iff.mp hvalue
  exact h (by simp)

theorem not_mem_of_enclosed?_eq_none (h : enclosed? mark cs = none) : mark ∉ cs := by
  intro hmem
  obtain ⟨value, rest, rfl, hfree⟩ := List.eq_append_cons_of_mem hmem
  rw [enclosed?_eq_some_iff.mpr ⟨rest, rfl, hfree⟩] at h
  cases h

theorem bare?_eq_some_iff :
    bare? cs = some value ↔
      ∃ rest, cs = value ++ rest ∧ IsPiece (fun c => !isBlank c) value ∧
        ∀ c ∈ rest.head?, isBlank c = true := by
  unfold bare?
  constructor
  · intro h
    dsimp only at h
    split at h
    · cases h
    · next hne =>
      obtain rfl := Option.some.inj h
      refine ⟨cs.dropWhile fun c => !isBlank c, List.takeWhile_append_dropWhile.symm, ⟨?_, ?_⟩, ?_⟩
      · simpa using hne
      · intro c hc
        exact List.mem_takeWhile_imp (p := fun c => !isBlank c) hc
      · intro c hc
        have hstop := List.head?_dropWhile_not (fun c => !isBlank c) cs
        rw [Option.mem_def.mp hc] at hstop
        simpa using hstop
  · rintro ⟨rest, rfl, ⟨hne, hwithin⟩, hends⟩
    have hrest : rest.takeWhile (fun c => !isBlank c) = [] := by
      cases rest with
      | nil => rfl
      | cons c rest => exact List.takeWhile_cons_of_neg (by simp [hends c rfl])
    rw [List.takeWhile_append_of_pos hwithin, hrest, List.append_nil]
    exact if_neg (by simpa using hne)

theorem Begins.attributeValue? (h : Begins value cs) :
    FenceInfo.attributeValue? cs = some value := by
  cases h with
  | @enclosed mark rest quote free =>
    have hmark : (mark = '"' || mark = '\'') = true := by simpa [quoteMarks] using quote
    rw [FenceInfo.attributeValue?, if_pos hmark, enclosed?_eq_some_iff.mpr ⟨rest, rfl, free⟩]
    rfl
  | @bare rest word ends unclosed =>
    have hbare : bare? (value ++ rest) = some value :=
      bare?_eq_some_iff.mpr ⟨rest, rfl, word, ends⟩
    obtain ⟨c, value, rfl⟩ := List.exists_cons_of_ne_nil word.1
    rw [List.cons_append] at hbare ⊢
    rw [FenceInfo.attributeValue?]
    split
    · next hmark =>
      -- the mark in front is not closed, and so belongs to the value
      have hfree : c ∉ value ++ rest := unclosed c (by simpa [quoteMarks] using hmark) rfl
      rw [enclosed?_eq_none hfree, hbare]
      rfl
    · exact hbare

/-- **A value is read** exactly where a text begins with it. -/
theorem attributeValue?_eq_some_iff : attributeValue? cs = some value ↔ Begins value cs := by
  refine ⟨fun h => ?_, Begins.attributeValue?⟩
  cases cs with
  | nil => cases h
  | cons c cs =>
    rw [attributeValue?] at h
    -- a bare value may begin with a mark if the mark does not occur again
    have hbare : bare? (c :: cs) = some value → (c ∈ quoteMarks → c ∉ cs) →
        Begins value (c :: cs) := by
      intro hvalue hfree
      obtain ⟨rest, htext, hword, hends⟩ := bare?_eq_some_iff.mp hvalue
      rw [htext]
      refine .bare hword hends fun mark hmark hhead => ?_
      obtain ⟨d, value, rfl⟩ := List.exists_cons_of_ne_nil hword.1
      obtain ⟨rfl, rfl⟩ := List.cons.inj htext
      obtain rfl := Option.some.inj hhead
      exact hfree hmark
    split at h
    · next hmark =>
      cases henclosed : enclosed? c cs with
      | some v =>
        rw [henclosed] at h
        obtain rfl : v = value := Option.some.inj h
        obtain ⟨rest, rfl, hfree⟩ := enclosed?_eq_some_iff.mp henclosed
        exact .enclosed (by simpa [quoteMarks] using hmark) hfree
      | none =>
        rw [henclosed] at h
        exact hbare h fun _ => not_mem_of_enclosed?_eq_none henclosed
    · next hmark => exact hbare h fun hc => absurd (by simpa [quoteMarks] using hc) hmark

theorem Begins.unique {value' : List Char} (h : Begins value cs) (h' : Begins value' cs) :
    value = value' :=
  Option.some.inj (h.attributeValue?.symm.trans h'.attributeValue?)

/-! ### The first attribute -/

/-- The first attribute in a text: a name with a value behind it, and none of this kind further in
front. -/
structure FirstAttribute (cs before name behind value : List Char) : Prop where
  text : cs = before ++ (name ++ behind)
  name : name ∈ attributeStarts
  value : Begins value behind
  first : ∀ before' name' behind' value', cs = before' ++ (name' ++ behind') →
    name' ∈ attributeStarts → Begins value' behind' → before.length ≤ before'.length

/-- No name is the beginning of another one. -/
theorem name_unique {name' behind' : List Char} (hname : name ∈ attributeStarts)
    (hname' : name' ∈ attributeStarts) (h : name ++ behind = name' ++ behind') :
    name = name' ∧ behind = behind' := by
  simp only [attributeStarts, List.mem_cons, List.not_mem_nil, or_false] at hname hname'
  rcases hname with rfl | rfl <;> rcases hname' with rfl | rfl <;> simp_all

theorem attributeHere?_eq_some_iff :
    attributeHere? cs = some value ↔
      ∃ name behind, cs = name ++ behind ∧ name ∈ attributeStarts ∧ Begins value behind := by
  have hfound : ∀ {value : List Char}, attributeHere? cs = some value →
      ∃ name behind, cs = name ++ behind ∧ name ∈ attributeStarts ∧ Begins value behind := by
    intro value h
    obtain ⟨name, hname, hbind⟩ := List.exists_of_findSome?_eq_some h
    obtain ⟨behind, hafter, hvalue⟩ := Option.bind_eq_some_iff.mp hbind
    exact ⟨name, behind, Text.after?_eq_some_iff.mp hafter, hname,
      attributeValue?_eq_some_iff.mp hvalue⟩
  refine ⟨hfound, ?_⟩
  rintro ⟨name, behind, hcs, hname, hbegins⟩
  have hvalue : (Text.after? name cs).bind attributeValue? = some value := by
    rw [Text.after?_eq_some_iff.mpr hcs, Option.bind_some, hbegins.attributeValue?]
  cases h : attributeHere? cs with
  | none =>
    rw [List.findSome?_eq_none_iff.mp h name hname] at hvalue
    cases hvalue
  | some value' =>
    -- what was found is the same name, with the same text behind it
    obtain ⟨name', behind', hcs', hname', hbegins'⟩ := hfound h
    obtain ⟨-, rfl⟩ := name_unique hname hname' (hcs.symm.trans hcs')
    rw [hbegins'.unique hbegins]

/-- **The search finds the first attribute**, and nothing else. -/
theorem findAttribute?_eq_some_iff :
    findAttribute? cs = some value ↔
      ∃ before name behind, FirstAttribute cs before name behind value := by
  induction cs with
  | nil =>
    refine iff_of_false nofun ?_
    rintro ⟨before, name, behind, htext, hname, -⟩
    simp only [List.nil_eq, List.append_eq_nil_iff] at htext
    rw [htext.2.1] at hname
    revert hname
    decide
  | cons c cs ih =>
    rw [findAttribute?]
    cases hhere : attributeHere? (c :: cs) with
    | some here =>
      obtain ⟨name, behind, htext, hname, hbegins⟩ := attributeHere?_eq_some_iff.mp hhere
      rw [show (some here <|> findAttribute? cs) = some here from rfl, Option.some.injEq]
      constructor
      · rintro rfl
        exact ⟨[], name, behind, htext, hname, hbegins, fun _ _ _ _ _ _ _ => Nat.zero_le _⟩
      · rintro ⟨before, name', behind', htext', hname', hbegins', hfirst⟩
        have hlen : before.length ≤ 0 := hfirst [] name behind here htext hname hbegins
        obtain rfl : before = [] := List.length_eq_zero_iff.mp (Nat.le_zero.mp hlen)
        obtain ⟨-, rfl⟩ := name_unique hname hname' (htext.symm.trans htext')
        exact hbegins.unique hbegins'
    | none =>
      have hnot : ∀ name behind value, c :: cs = name ++ behind → name ∈ attributeStarts →
          ¬Begins value behind := by
        intro name behind value htext hname hbegins
        rw [attributeHere?_eq_some_iff.mpr ⟨name, behind, htext, hname, hbegins⟩] at hhere
        cases hhere
      rw [show (none <|> findAttribute? cs) = findAttribute? cs from rfl, ih]
      -- nothing begins here, so the places are those of the rest, each one further behind
      constructor
      · rintro ⟨before, name, behind, rfl, hname, hbegins, hfirst⟩
        refine ⟨c :: before, name, behind, rfl, hname, hbegins, ?_⟩
        intro before' name' behind' value' htext' hname' hbegins'
        cases before' with
        | nil => exact absurd hbegins' (hnot name' behind' value' htext' hname')
        | cons d before' =>
          obtain ⟨-, htext'⟩ := List.cons.inj htext'
          have hlen := hfirst before' name' behind' value' htext' hname' hbegins'
          exact Nat.succ_le_succ hlen
      · rintro ⟨before, name, behind, htext, hname, hbegins, hfirst⟩
        cases before with
        | nil => exact absurd hbegins (hnot name behind value htext hname)
        | cons d before =>
          obtain ⟨rfl, hrest⟩ := List.cons.inj htext
          refine ⟨before, name, behind, hrest, hname, hbegins, ?_⟩
          intro before' name' behind' value' htext' hname' hbegins'
          have hlen := hfirst (c :: before') name' behind' value' (by rw [htext']; rfl) hname'
            hbegins'
          exact Nat.le_of_succ_le_succ hlen

/-! ### Written attributes -/

/-- A text is a value as it is written, with what may follow: between two marks that the value has
none of, with any text behind; or bare, if the value has no blank and opens with no mark, at the end
or with a space and any text behind. -/
inductive Written (value : List Char) : List Char → Prop where
  | double (rest : List Char) (free : '"' ∉ value) :
      Written value ('"' :: (value ++ '"' :: rest))
  | single (rest : List Char) (free : '\'' ∉ value) :
      Written value ('\'' :: (value ++ '\'' :: rest))
  | bare {rest : List Char} (within : ∀ c ∈ value, isBlank c = false)
      (opens : ∀ c ∈ value.head?, c ∉ quoteMarks) (ends : rest = [] ∨ ∃ more, rest = ' ' :: more) :
      Written value (value ++ rest)

theorem Written.begins (h : Written value written) (hne : value ≠ []) : Begins value written := by
  cases h with
  | double rest free => exact .enclosed (by decide) free
  | single rest free => exact .enclosed (by decide) free
  | bare within opens ends =>
    refine .bare ⟨hne, fun c hc => by simp [within c hc]⟩ ?_ ?_
    · rcases ends with rfl | ⟨more, rfl⟩
      · nofun
      · rintro c ⟨⟩
        rfl
    · intro mark hmark hhead
      exact absurd hmark (opens mark hhead)

/-- A value is still there when the blanks at the end of the text are gone. -/
theorem Begins.dropEndWhile (h : Begins value cs) :
    Begins value (Text.dropEndWhile isBlank cs) := by
  cases h with
  | @enclosed mark rest quote free =>
    have hmark : isBlank mark = false := by
      simp only [quoteMarks, List.mem_cons, List.not_mem_nil, or_false] at quote
      rcases quote with rfl | rfl <;> rfl
    rw [← List.cons_append, dropEndWhile_append_cons hmark, List.cons_append]
    exact .enclosed quote free
  | @bare rest word ends unclosed =>
    have hlast : value.getLast? = some (value.getLast word.1) :=
      List.getLast?_eq_some_getLast word.1
    have hkept := word.2 _ (List.getLast_mem word.1)
    rw [dropEndWhile_append_of_last hlast (by simpa using hkept)]
    have hstarts : Text.dropEndWhile isBlank rest <+: rest := List.rdropWhile_prefix isBlank rest
    refine .bare word ?_ ?_
    · intro c hc
      have hne : Text.dropEndWhile isBlank rest ≠ [] := by
        intro hnil
        rw [hnil] at hc
        cases hc
      rw [head?_dropEndWhile hne] at hc
      exact ends c hc
    · intro mark hmark hhead hmem
      apply unclosed mark hmark hhead
      rcases List.mem_append.mp hmem with hmem | hmem
      · exact List.mem_append_left _ hmem
      · exact List.mem_append_right _ (hstarts.subset hmem)

/-- What may stand in front of an attribute: nothing, or a text that ends in a space and has no name
of an attribute in it. -/
structure Leads (before : List Char) : Prop where
  ends : before = [] ∨ before.getLast? = some ' '
  free : ∀ start ∈ attributeStarts, ¬start <:+: before

/-- No name begins in such a text, not even one that goes on behind it. -/
theorem Leads.length_le {before' name' behind' : List Char} (h : Leads before)
    (hname : name' ∈ attributeStarts) (htext : before ++ rest = before' ++ (name' ++ behind')) :
    before.length ≤ before'.length := by
  rcases List.append_eq_append_iff.mp htext with ⟨as, rfl, -⟩ | ⟨shared, rfl, hshared⟩
  · rw [List.length_append]
    exact Nat.le_add_right _ _
  · rcases List.append_eq_append_iff.mp hshared with ⟨as, rfl, -⟩ | ⟨bs, rfl, -⟩
    · -- the whole name lies in front
      exact absurd ⟨before', as, by simp⟩ (h.free name' hname)
    · -- a part of the name lies in front, and no name has the space in it that ends this part
      rcases List.eq_nil_or_concat shared with rfl | ⟨init, c, rfl⟩
      · simp
      · exfalso
        have hspace : ' ' ∉ init ++ [c] ++ bs := by
          simp only [attributeStarts, List.mem_cons, List.not_mem_nil, or_false] at hname
          rcases hname with hname | hname <;> rw [← List.concat_eq_append, hname] <;> decide
        rcases h.ends with hnil | hlast
        · simp at hnil
        · rw [List.concat_eq_append, ← List.append_assoc, List.getLast?_concat,
            Option.some.injEq] at hlast
          exact hspace (by simp [hlast])

/-- An attribute behind such a text is the first one. -/
theorem Leads.firstAttribute (h : Leads before) (hname : name ∈ attributeStarts)
    (hvalue : Begins value behind) :
    FirstAttribute (before ++ (name ++ behind)) before name behind value where
  text := rfl
  name := hname
  value := hvalue
  first _ _ _ _ htext hname' _ := h.length_le hname' htext

end FenceInfo

open FenceInfo

/-- The parts of an info line that begins with a language and a space, and has an attribute. -/
theorem parts_of_attribute {language before name written : List Char}
    (hlanguage : IsPiece (fun c => !isBlank c) language) :
    languagePart (language ++ ' ' :: (before ++ (name ++ '=' :: written))) = language ∧
      attributePart (language ++ ' ' :: (before ++ (name ++ '=' :: written))) =
        before ++ (name ++ '=' :: dropEndWhile isBlank written) := by
  have hword : FirstWord (language ++ ' ' :: (before ++ (name ++ '=' :: written))) [] language
      (' ' :: (before ++ (name ++ '=' :: written))) := by
    refine ⟨rfl, nofun, hlanguage.1, fun c hc => by simpa using hlanguage.2 c hc, ?_⟩
    rintro c ⟨⟩
    rfl
  have hrest : dropEndWhile isBlank (' ' :: (before ++ (name ++ '=' :: written))) =
      ' ' :: (before ++ (name ++ '=' :: dropEndWhile isBlank written)) := by
    -- the equals sign is no blank, so only what is behind it can lose any
    have hkeep := dropEndWhile_append_cons (p := isBlank) (c := '=') rfl (' ' :: (before ++ name))
      written
    simpa [List.append_assoc] using hkeep
  obtain ⟨hleft, hright⟩ := parts_of_firstWord hword
  rw [hleft, hright, hrest]
  simp

/-- **A written attribute is read back**: behind a language and a text without attributes, whatever
follows the value. -/
theorem attribute_read_back {n : Node} {source : Key.Source} {start : Nat} {key : String}
    {language before name value : String} {written : List Char} (kind : n.kind = .fence)
    (hkey : source start = .ok key)
    (hlanguage : IsPiece (fun c => !isBlank c) language.toList)
    (hbefore : Leads before.toList) (hname : name ∈ ["title", "filename"]) (hvalue : value ≠ "")
    (hwritten : Written value.toList written)
    (hinfo : n.info.toList =
      language.toList ++ ' ' :: (before.toList ++ (name.toList ++ '=' :: written))) :
    (code n).run source start =
      .ok (⟨key, some language, some value, codeText n.content⟩, start + 1) := by
  obtain ⟨hleft, hright⟩ :=
    @parts_of_attribute language.toList before.toList name.toList written hlanguage
  have hstart : name.toList ++ ['='] ∈ attributeStarts := by
    simp only [List.mem_cons, List.not_mem_nil, or_false] at hname
    rcases hname with rfl | rfl <;> decide
  have hne : value.toList ≠ [] := by simpa using hvalue
  have hfirst := hbefore.firstAttribute hstart (hwritten.begins hne).dropEndWhile
  rw [List.append_assoc, List.singleton_append] at hfirst
  have hlang : (FenceInfo.of n.info).language = some language := by
    rw [language_of, hinfo, hleft]
    exact nonEmpty?_eq_some_iff.mpr ⟨by simpa using hlanguage.1, rfl⟩
  have hfile : (FenceInfo.of n.info).filename = some value := by
    rw [filename_of, hinfo, hright, findAttribute?_eq_some_iff.mpr ⟨_, _, _, hfirst⟩]
    exact nonEmpty?_eq_some_iff.mpr ⟨hvalue, rfl⟩
  rw [run_code_iff]
  refine ⟨key, hkey, ?_, rfl⟩
  rw [if_pos kind, hlang, hfile]

/-- A fence with two attributes, behind a text with marks in it. -/
def fenceOfTwoAttributes : Node :=
  ⟨.fence, "", "x\n", "c++ std='17' title=\"a 'b\"c filename=d ", [], []⟩

/-- A value with a blank between double marks, behind a text with marks in it, and in front of a
second attribute. -/
theorem attribute_read_in_front_of_another :
    ∃ written : List Char, fenceOfTwoAttributes.kind = .fence ∧ Key.Source.counted 0 = .ok "k0" ∧
      IsPiece (fun c => !isBlank c) "c++".toList ∧ Leads "std='17' ".toList ∧
      "title" ∈ ["title", "filename"] ∧ "a 'b".toList ≠ [] ∧ Written "a 'b".toList written ∧
      fenceOfTwoAttributes.info.toList =
        "c++".toList ++ ' ' :: ("std='17' ".toList ++ ("title".toList ++ '=' :: written)) ∧
      (code fenceOfTwoAttributes).run Key.Source.counted 0 =
        .ok (⟨"k0", some "c++", some "a 'b", "x"⟩, 1) := by
  have kind : fenceOfTwoAttributes.kind = .fence := rfl
  have hkey : Key.Source.counted 0 = .ok "k0" := rfl
  have hlanguage : IsPiece (fun c => !isBlank c) "c++".toList :=
    ⟨by decide, List.all_eq_true.mp rfl⟩
  have hbefore : Leads "std='17' ".toList := ⟨.inr rfl, by decide +kernel⟩
  have hwritten : Written "a 'b".toList "\"a 'b\"c filename=d ".toList :=
    .double "c filename=d ".toList (by decide)
  have hinfo : fenceOfTwoAttributes.info.toList =
      "c++".toList ++ ' ' :: ("std='17' ".toList ++
        ("title".toList ++ '=' :: "\"a 'b\"c filename=d ".toList)) := rfl
  have hrun :=
    attribute_read_back kind hkey hlanguage hbefore (by decide) (by decide) hwritten hinfo
  exact ⟨_, kind, hkey, hlanguage, hbefore, by decide, by decide, hwritten, hinfo, hrun.trans rfl⟩

/-! ### Where a file name comes from -/

/-- A value is that of an attribute of exactly one of the names: in front of the name there is
nothing, or a blank. -/
def ExactlyNamed (cs value : List Char) : Prop :=
  ∃ before name behind, cs = before ++ (name ++ behind) ∧ name ∈ attributeStarts ∧
    Begins value behind ∧ ∀ c ∈ before.getLast?, isBlank c = true

/-- **The file name of a fence** is the value of the first attribute behind the language, if it is
not empty, whatever stands in front of the name. It is that of an attribute of exactly this name if
no name stands behind anything but a blank. -/
theorem filename_of_first_attribute {n : Node} {source : Key.Source} {start : Nat} {key : String}
    (kind : n.kind = .fence) (hkey : source start = .ok key) :
    ∃ b, (code n).run source start = .ok (b, start + 1) ∧
      (∀ value, b.filename = some value ↔ value ≠ "" ∧ ∃ before name behind,
        FirstAttribute (attributePart n.info.toList) before name behind value.toList) ∧
      ((∀ before name behind, attributePart n.info.toList = before ++ (name ++ behind) →
          name ∈ attributeStarts → ∀ c ∈ before.getLast?, isBlank c = true) →
        ∀ value, b.filename = some value →
          ExactlyNamed (attributePart n.info.toList) value.toList) := by
  have hfile : ∀ value, (FenceInfo.of n.info).filename = some value ↔
      value ≠ "" ∧ ∃ before name behind,
        FirstAttribute (attributePart n.info.toList) before name behind value.toList := by
    intro value
    rw [filename_of, Option.bind_eq_some_iff]
    simp only [nonEmpty?_eq_some_iff, findAttribute?_eq_some_iff]
    constructor
    · rintro ⟨_, hfirst, hne, rfl⟩
      exact ⟨hne, hfirst⟩
    · rintro ⟨hne, hfirst⟩
      exact ⟨_, hfirst, hne, rfl⟩
  refine ⟨_, run_code_iff.mpr ⟨key, hkey, rfl, rfl⟩, ?_, ?_⟩
  · rw [if_pos kind]
    exact hfile
  · rw [if_pos kind]
    intro hnames value hvalue
    obtain ⟨-, before, name, behind, hfirst⟩ := (hfile value).mp hvalue
    exact ⟨before, name, behind, hfirst.text, hfirst.name, hfirst.value,
      hnames before name behind hfirst.text hfirst.name⟩

/-- A fence with an attribute inside the value of another one. -/
def fenceOfNameInValue : Node := ⟨.fence, "", "", "python x=\"title=y\"", [], []⟩

/-- A name that stands inside the value of another attribute is found. -/
theorem filename_of_name_in_value :
    fenceOfNameInValue.kind = .fence ∧ Key.Source.counted 0 = .ok "k0" ∧
      ∃ b, (code fenceOfNameInValue).run Key.Source.counted 0 = .ok (b, 1) ∧
        b.filename = some "y\"" := by
  have kind : fenceOfNameInValue.kind = .fence := rfl
  have hkey : Key.Source.counted 0 = .ok "k0" := rfl
  obtain ⟨b, hrun, hfile, -⟩ := filename_of_first_attribute kind hkey
  refine ⟨kind, hkey, b, hrun, (hfile _).mpr ⟨by decide, ?_⟩⟩
  rw [← findAttribute?_eq_some_iff]
  decide

/-- Not every file name is that of an attribute of exactly one of the names. -/
theorem filename_of_subtitle :
    ¬∀ (n : Node) (source : Key.Source) (start stop : Nat) (b : CodeBlock) (value : String),
      n.kind = .fence → (code n).run source start = .ok (b, stop) → b.filename = some value →
        ExactlyNamed (attributePart n.info.toList) value.toList := by
  intro h
  obtain ⟨before, name, behind, htext, hname, -, hblank⟩ :=
    h ⟨.fence, "", "", "python subtitle=x", [], []⟩ Key.Source.counted 0 1 _ "x" rfl rfl (by decide)
  have hpart : attributePart "python subtitle=x".toList = "subtitle=x".toList := by decide
  rw [hpart] at htext
  -- the only place at which a name begins is behind three letters
  have hplace : ∀ k ≤ 10, ∀ start ∈ attributeStarts, start <+: "subtitle=x".toList.drop k →
      k = 3 := by decide
  have hlen : before.length ≤ 10 := by
    have hle := congrArg List.length htext
    simp only [List.length_append] at hle
    have : "subtitle=x".toList.length = 10 := rfl
    omega
  have hstarts : name <+: "subtitle=x".toList.drop before.length := by
    rw [htext, List.drop_left]
    exact List.prefix_append _ _
  have hthree := hplace before.length hlen name hname hstarts
  have hbefore : before = "sub".toList := by
    have htake := congrArg (List.take before.length) htext
    rw [List.take_left, hthree] at htake
    rw [← htake]
    rfl
  have hb := hblank 'b' (by rw [hbefore]; rfl)
  revert hb
  decide

end ContentBlocks
