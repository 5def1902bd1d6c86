import ContentBlocks.Block.Check
import Mathlib.Data.List.Forall2

/-!
# What is accepted as a sequence of blocks

The shape check stops at the first fault and tells one fault from another. Whether there is any does
not depend on the order in which it looks: it accepts a sequence if each of its members is accepted
by itself, and reads only a few fields of each.

## Main definitions

* `Shape.IsSpan`, `Shape.IsBlock`: the values that are accepted as spans and as blocks
* `Shape.SpanAlike`, `Shape.BlockAlike`: values that agree in the fields that are read

## Main results

* `blockFault?_eq_none_iff`: a block is without fault if it is accepted
* `IsBlock.congr`: other fields have no say in it
* `wellShaped_iff_all_blocks`: what is accepted, of all values
-/

namespace ContentBlocks.Shape

variable {fields fields' : List (String × Json)} {name : String} {v w : Json}
  {vs ws : List Json} {index start : Nat}

/-! ### Accepted values -/

/-- A field that is there and counts as true. -/
def Has (name : String) (fields : List (String × Json)) : Prop :=
  ∃ v, fields.lookup name = some v ∧ v.truthy = true

/-- The fields of a span: a kind, a key and a text, which may be empty. -/
structure SpanFields (fields : List (String × Json)) : Prop where
  type : Has "_type" fields
  key : Has "_key" fields
  text : ∃ s, fields.lookup "text" = some (.str s)

/-- An object with the fields of a span. -/
def IsSpan (v : Json) : Prop := ∃ fields, v = .obj fields ∧ SpanFields fields

/-- The fields of a block: a kind and a key, and for a text block a list of spans. -/
structure BlockFields (fields : List (String × Json)) : Prop where
  type : Has "_type" fields
  key : Has "_key" fields
  spans : fields.lookup "_type" = some (.str "block") →
    ∃ spans, fields.lookup "children" = some (.arr spans) ∧ ∀ s ∈ spans, IsSpan s

/-- An object with the fields of a block. -/
def IsBlock (v : Json) : Prop := ∃ fields, v = .obj fields ∧ BlockFields fields

theorem has_eq_true_iff : has name fields = true ↔ Has name fields := by
  unfold has Has
  cases fields.lookup name with
  | none => simp
  | some v => simp

theorem hasText_eq_true_iff :
    hasText name fields = true ↔ ∃ s, fields.lookup name = some (.str s) := by
  unfold hasText
  constructor
  · intro h
    split at h
    · next s hs => exact ⟨s, hs⟩
    · cases h
  · rintro ⟨s, hs⟩
    rw [hs]

theorem isSpan_obj_iff : IsSpan (.obj fields) ↔ SpanFields fields := by
  constructor
  · rintro ⟨fields', heq, h⟩
    obtain rfl := Json.obj.inj heq
    exact h
  · intro h
    exact ⟨fields, rfl, h⟩

theorem isBlock_obj_iff : IsBlock (.obj fields) ↔ BlockFields fields := by
  constructor
  · rintro ⟨fields', heq, h⟩
    obtain rfl := Json.obj.inj heq
    exact h
  · intro h
    exact ⟨fields, rfl, h⟩

/-! ### Faults -/

theorem spanFields_iff :
    (has "_type" fields && has "_key" fields && hasText "text" fields) = true ↔
      SpanFields fields := by
  rw [Bool.and_eq_true, Bool.and_eq_true, has_eq_true_iff, has_eq_true_iff, hasText_eq_true_iff]
  exact ⟨fun ⟨⟨htype, hkey⟩, htext⟩ => ⟨htype, hkey, htext⟩,
    fun h => ⟨⟨h.type, h.key⟩, h.text⟩⟩

/-- Spans are without fault if each of them is accepted. -/
theorem spansFault?_eq_none_iff : spansFault? index vs = none ↔ ∀ v ∈ vs, IsSpan v := by
  induction vs with
  | nil => simp [spansFault?]
  | cons v vs ih =>
    rw [List.forall_mem_cons, ← ih]
    cases v with
    | obj fields =>
      rw [spansFault?, isSpan_obj_iff, ← spanFields_iff]
      split_ifs with h
      · simp [h]
      · simp [h]
    | _ =>
      -- what is no object ends the check in a fault, and is no span
      simp [spansFault?, IsSpan]

/-- **A block is without fault** if it is accepted. -/
theorem blockFault?_eq_none_iff : blockFault? index v = none ↔ IsBlock v := by
  cases v with
  | obj fields =>
    rw [isBlock_obj_iff, blockFault?]
    by_cases hidentified : (has "_type" fields && has "_key" fields) = true
    · rw [if_pos hidentified]
      rw [Bool.and_eq_true, has_eq_true_iff, has_eq_true_iff] at hidentified
      obtain ⟨htype, hkey⟩ := hidentified
      split
      · next htext =>
        -- a text block, so what counts are its spans
        split
        · next spans hspans =>
          rw [spansFault?_eq_none_iff]
          constructor
          · intro h
            exact ⟨htype, hkey, fun _ => ⟨spans, hspans, h⟩⟩
          · intro h
            obtain ⟨spans', hspans', hall⟩ := h.spans htext
            rw [hspans] at hspans'
            obtain rfl := Json.arr.inj (Option.some.inj hspans')
            exact hall
        · next hnone =>
          constructor
          · nofun
          · intro h
            obtain ⟨spans, hspans, -⟩ := h.spans htext
            exact absurd hspans (hnone spans)
      · next hother =>
        constructor
        · intro _
          exact ⟨htype, hkey, fun htext => absurd htext hother⟩
        · intro _
          rfl
    · rw [if_neg hidentified]
      constructor
      · nofun
      · intro h
        exact absurd (by simp [has_eq_true_iff, h.type, h.key]) hidentified
  | _ => simp [blockFault?, IsBlock]

theorem firstFault?_eq_none_iff : firstFault? start vs = none ↔ ∀ v ∈ vs, IsBlock v := by
  -- the index of a block is told in its fault, and has no say in whether there is one
  induction vs generalizing start with
  | nil => simp [firstFault?]
  | cons v vs ih =>
    have hfirst : blockFault? start v = none ↔ IsBlock v := blockFault?_eq_none_iff
    have hrest : firstFault? (start + 1) vs = none ↔ ∀ v ∈ vs, IsBlock v := ih
    rw [List.forall_mem_cons, ← hfirst, ← hrest, firstFault?]
    cases blockFault? start v <;> simp

theorem wellShaped_arr_iff : wellShaped (.arr vs) = true ↔ ∀ v ∈ vs, IsBlock v := by
  rw [wellShaped, fault?, Option.isNone_iff_eq_none, firstFault?_eq_none_iff]

/-! ### Other fields -/

/-- The fields of some names are the same in two objects. -/
def Agree (names : List String) (fields fields' : List (String × Json)) : Prop :=
  ∀ name ∈ names, fields.lookup name = fields'.lookup name

/-- Values that agree in the fields that are read of a span. -/
inductive SpanAlike : Json → Json → Prop where
  | refl (v : Json) : SpanAlike v v
  | obj {fields fields' : List (String × Json)}
      (fields_agree : Agree ["_type", "_key", "text"] fields fields') :
      SpanAlike (.obj fields) (.obj fields')

/-- Values that agree in the fields that are read of a block. What stands under `children` is read
of a text block only, and of spans only what is read of a span. -/
inductive BlockAlike : Json → Json → Prop where
  | refl (v : Json) : BlockAlike v v
  | obj {fields fields' : List (String × Json)}
      (fields_agree : Agree ["_type", "_key", "children"] fields fields') :
      BlockAlike (.obj fields) (.obj fields')
  | noText {fields fields' : List (String × Json)}
      (fields_agree : Agree ["_type", "_key"] fields fields')
      (type : fields.lookup "_type" ≠ some (.str "block")) :
      BlockAlike (.obj fields) (.obj fields')
  | text {fields fields' : List (String × Json)} {spans spans' : List Json}
      (fields_agree : Agree ["_type", "_key"] fields fields')
      (children : fields.lookup "children" = some (.arr spans))
      (children' : fields'.lookup "children" = some (.arr spans'))
      (spans_alike : List.Forall₂ SpanAlike spans spans') :
      BlockAlike (.obj fields) (.obj fields')

theorem Agree.symm {names : List String} (h : Agree names fields fields') :
    Agree names fields' fields :=
  fun name hname => (h name hname).symm

theorem Agree.has {names : List String} (h : Agree names fields fields') (hname : name ∈ names) :
    Has name fields → Has name fields' := by
  unfold Has
  rw [h name hname]
  exact id

theorem SpanAlike.symm (h : SpanAlike v w) : SpanAlike w v := by
  cases h with
  | refl => exact .refl v
  | obj hagree => exact .obj hagree.symm

theorem BlockAlike.symm (h : BlockAlike v w) : BlockAlike w v := by
  cases h with
  | refl => exact .refl v
  | obj hagree => exact .obj hagree.symm
  | noText hagree htype => exact .noText hagree.symm (hagree "_type" (by simp) ▸ htype)
  | text hagree hchildren hchildren' hspans =>
    exact .text hagree.symm hchildren' hchildren (hspans.flip.imp fun _ _ => SpanAlike.symm)

theorem IsSpan.of_alike (h : SpanAlike v w) (hv : IsSpan v) : IsSpan w := by
  cases h with
  | refl => exact hv
  | obj hagree =>
    have hfields := isSpan_obj_iff.mp hv
    refine isSpan_obj_iff.mpr ⟨?_, ?_, ?_⟩
    · exact hagree.has (by simp) hfields.type
    · exact hagree.has (by simp) hfields.key
    · rw [← hagree "text" (by simp)]
      exact hfields.text

theorem forall_isSpan_of_alike (h : List.Forall₂ SpanAlike vs ws) (hvs : ∀ v ∈ vs, IsSpan v) :
    ∀ w ∈ ws, IsSpan w := by
  induction h with
  | nil => exact hvs
  | cons hvw _ ih =>
    rw [List.forall_mem_cons] at hvs ⊢
    exact ⟨hvs.1.of_alike hvw, ih hvs.2⟩

/-- Of two objects that agree in kind and key the one is accepted with the other, if the spans of a
text block are. -/
theorem BlockFields.of_agree {names : List String} (hfields : BlockFields fields)
    (hagree : Agree names fields fields') (htype : "_type" ∈ names) (hkey : "_key" ∈ names)
    (hspans : fields.lookup "_type" = some (.str "block") →
      ∃ spans, fields'.lookup "children" = some (.arr spans) ∧ ∀ s ∈ spans, IsSpan s) :
    BlockFields fields' := by
  refine ⟨hagree.has htype hfields.type, hagree.has hkey hfields.key, ?_⟩
  rw [← hagree "_type" htype]
  exact hspans

theorem IsBlock.of_alike (h : BlockAlike v w) (hv : IsBlock v) : IsBlock w := by
  cases h with
  | refl => exact hv
  | obj hagree =>
    have hfields := isBlock_obj_iff.mp hv
    refine isBlock_obj_iff.mpr (hfields.of_agree hagree (by simp) (by simp) ?_)
    rw [← hagree "children" (by simp)]
    exact hfields.spans
  | noText hagree htype =>
    have hfields := isBlock_obj_iff.mp hv
    -- the spans are looked at in a text block only
    refine isBlock_obj_iff.mpr (hfields.of_agree hagree (by simp) (by simp) ?_)
    exact fun htext => absurd htext htype
  | text hagree hchildren hchildren' hspans =>
    have hfields := isBlock_obj_iff.mp hv
    refine isBlock_obj_iff.mpr (hfields.of_agree hagree (by simp) (by simp) ?_)
    intro htext
    obtain ⟨spans, hlookup, hall⟩ := hfields.spans htext
    rw [hchildren] at hlookup
    obtain rfl := Json.arr.inj (Option.some.inj hlookup)
    exact ⟨_, hchildren', forall_isSpan_of_alike hspans hall⟩

/-- **Other fields have no say** in what is accepted as a block. -/
theorem IsBlock.congr (h : BlockAlike v w) : IsBlock v ↔ IsBlock w :=
  ⟨.of_alike h, .of_alike h.symm⟩

theorem forall_isBlock_congr (h : List.Forall₂ BlockAlike vs ws) :
    (∀ v ∈ vs, IsBlock v) ↔ ∀ w ∈ ws, IsBlock w := by
  induction h with
  | nil => exact Iff.rfl
  | cons hvw _ ih => rw [List.forall_mem_cons, List.forall_mem_cons, IsBlock.congr hvw, ih]

/-! ### All values -/

/-- **What is accepted, of all values**: the empty text, the empty object, and the lists whose
members are all accepted as blocks. So two lists in a row are accepted if both are, and neither the
order of the blocks nor any field that is not read makes a difference. -/
theorem wellShaped_iff_all_blocks :
    (∀ v, wellShaped v = true ↔
      v = .str "" ∨ v = .obj [] ∨ ∃ bs, v = .arr bs ∧ ∀ b ∈ bs, IsBlock b) ∧
    (∀ bs bs', wellShaped (.arr (bs ++ bs')) =
      (wellShaped (.arr bs) && wellShaped (.arr bs'))) ∧
    (∀ bs bs', bs.Perm bs' → wellShaped (.arr bs) = wellShaped (.arr bs')) ∧
    ∀ bs bs', List.Forall₂ BlockAlike bs bs' → wellShaped (.arr bs) = wellShaped (.arr bs') := by
  refine ⟨fun v => ?_, fun bs bs' => ?_, fun bs bs' hperm => ?_, fun bs bs' halike => ?_⟩
  · cases v with
    | arr bs => simp [wellShaped_arr_iff]
    | str s => simp [wellShaped, fault?]
    | obj fields => simp [wellShaped, fault?]
    | _ => simp [wellShaped, fault?]
  · rw [Bool.eq_iff_iff, Bool.and_eq_true, wellShaped_arr_iff, wellShaped_arr_iff,
      wellShaped_arr_iff, List.forall_mem_append]
  · rw [Bool.eq_iff_iff, wellShaped_arr_iff, wellShaped_arr_iff]
    exact forall_congr' fun b => by rw [hperm.mem_iff]
  · rw [Bool.eq_iff_iff, wellShaped_arr_iff, wellShaped_arr_iff]
    exact forall_isBlock_congr halike

/-- A text block with a span of a strange kind, and a block whose kind is a number, are accepted in
either order, and with further fields. -/
theorem accepted_in_either_order :
    wellShaped (.arr
      [.obj [("_type", .str "block"), ("_key", .bool true), ("children", .arr
        [.obj [("text", .str ""), ("_type", .arr [.null]), ("_key", .int 7)]])],
       .obj [("_key", .str "k"), ("_type", .int 1)]]) = true ∧
    wellShaped (.arr
      [.obj [("_key", .str "k"), ("children", .null), ("_type", .int 1)],
       .obj [("_type", .str "block"), ("style", .int 0), ("_key", .bool true), ("children", .arr
        [.obj [("marks", .null), ("_type", .arr [.null]), ("_key", .int 7),
          ("text", .str "")]])]]) = true := by
  have hfirst : wellShaped (.arr
      [.obj [("_type", .str "block"), ("_key", .bool true), ("children", .arr
        [.obj [("text", .str ""), ("_type", .arr [.null]), ("_key", .int 7)]])],
       .obj [("_key", .str "k"), ("_type", .int 1)]]) = true := by decide
  obtain ⟨-, -, hperm, halike⟩ := wellShaped_iff_all_blocks
  rw [hperm _ _ (.swap _ _ _)] at hfirst
  refine ⟨(hperm _ _ (.swap _ _ _)).trans hfirst, (halike _ _ ?_).symm.trans hfirst⟩
  refine .cons (.noText ?_ ?_) (.cons (.text ?_ rfl rfl ?_) .nil)
  · simp [Agree, List.lookup_cons]
  · simp [List.lookup_cons]
  · simp [Agree, List.lookup_cons]
  · refine .cons (.obj ?_) .nil
    simp [Agree, List.lookup_cons]

end ContentBlocks.Shape
