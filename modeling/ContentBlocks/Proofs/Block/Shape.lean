import ContentBlocks.Block.Check
import ContentBlocks.Proofs.Conversion.Keys
import ContentBlocks.Proofs.Json.Fields

/-!
# What the shape check accepts

Blocks have two forms as JSON, and the shape check reads both alike: it reads only fields that are
never absent, so dropping the absent fields or setting them to null makes no difference to it. Of
these fields only the keys can be wrong, those of the blocks and those of the spans of text blocks.
What conversion makes has all its keys from the source, so it is accepted if the source gives no
empty key.

## Main definitions

* `Block.Keyed`: a block in which the keys that the check reads are not empty

## Main results

* `Shape.blockFault?_encode`: what the check finds wrong in a block, in whatever form
* `Shape.faultOf?_eq_fault?`: blocks have the same faults in their two forms
* `Shape.fit_iff_keyed`: the blocks that are accepted
* `forms_fit_iff_keyed`: both forms get one answer, and what conversion makes is accepted
-/

namespace ContentBlocks

/-- The spans that stand directly in a block. Only text blocks have any. -/
def Block.spans : Block → List Span
  | .text b => b.children
  | _ => []

/-- A block in which the keys that the shape check reads are not empty: its own, and those of the
spans that stand directly in it. -/
def Block.Keyed (b : Block) : Prop := b.key ≠ "" ∧ ∀ s ∈ b.spans, s.key ≠ ""

instance (b : Block) : Decidable b.Keyed := inferInstanceAs (Decidable (_ ∧ _))

theorem Block.key_mem_keys (b : Block) : b.key ∈ b.keys := by
  cases b with
  | text b | highlight b => exact List.mem_cons_self
  | code b | image b | separator key => exact List.mem_singleton_self _
  | table b => exact List.mem_append_right _ (List.mem_singleton_self _)

theorem Block.span_key_mem_keys {b : Block} {s : Span} (hs : s ∈ b.spans) : s.key ∈ b.keys := by
  cases b with
  | text b => exact List.mem_cons_of_mem _ (List.mem_map_of_mem hs)
  | code _ | highlight _ | image _ | table _ | separator _ => cases hs

/-- The keys that the shape check reads are among the keys of the block. -/
theorem Block.keyed_of_keys {b : Block} (h : ∀ k ∈ b.keys, k ≠ "") : b.Keyed :=
  ⟨h _ b.key_mem_keys, fun _ hs => h _ (Block.span_key_mem_keys hs)⟩

namespace Shape

variable {object : List (String × Option Json) → Json} {index start : Nat} {key : String}

/-! ### Blocks -/

/-- A text counts as present if it is not empty. -/
theorem has_iff {name text : String} {fields : List (String × Json)}
    (h : fields.lookup name = some (.str text)) : has name fields = true ↔ text ≠ "" := by
  simp [has, h, Json.truthy]

/-- Of what the check reads of a span only the key can be wrong. -/
theorem spansFault?_cons (s : Span) (rest : List Json) :
    spansFault? index (s.toJson :: rest) =
      if s.key = "" then some (.badSpan index) else spansFault? index rest := by
  rw [Span.toJson, spansFault?]
  by_cases hs : s.key = ""
  · simp [has, hasText, List.lookup_cons, Json.truthy, hs]
  · simp [has, hasText, List.lookup_cons, Json.truthy, hs]

theorem spansFault?_map_toJson (spans : List Span) :
    spansFault? index (spans.map Span.toJson) =
      if ∀ s ∈ spans, s.key ≠ "" then none else some (.badSpan index) := by
  induction spans with
  | nil => rfl
  | cons s spans ih =>
    rw [List.map_cons, spansFault?_cons, ih]
    by_cases hs : s.key = ""
    · simp [hs]
    · simp [hs]

/-- What is wrong with an object that has a kind and a key and is no text block. -/
theorem blockFault?_object {fields : List (String × Option Json)} {type : String}
    (h : Json.KeepsFields object) (htype : fields.lookup "_type" = some (some (.str type)))
    (hkey : fields.lookup "_key" = some (some (.str key))) (hne : type ≠ "")
    (hblock : type ≠ "block") :
    blockFault? index (object fields) = if key = "" then some (.unidentified index) else none := by
  obtain ⟨kept, hobj, hkept⟩ := h fields
  have htype' := hkept _ _ htype
  have hkey' := hkept _ _ hkey
  rw [hobj, blockFault?]
  by_cases hk : key = ""
  · simp [has_iff hkey', hk]
  · simp [has_iff htype', has_iff hkey', htype', hne, hblock, hk]

/-- What is wrong with a text block. -/
theorem blockFault?_text (h : Json.KeepsFields object) (b : TextBlock) :
    blockFault? index (b.encode object) =
      if b.key = "" then some (.unidentified index)
      else if ∀ s ∈ b.children, s.key ≠ "" then none else some (.badSpan index) := by
  -- of these fields the check reads three, and all three have a value
  obtain ⟨kept, hobj, hkept⟩ := h
    [("_key", some (.str b.key)), ("_type", some (.str "block")),
     ("style", some (.str b.style.name)), ("level", b.level.map fun l => .int l.val),
     ("listItem", b.listItem.map fun k => .str k.name),
     ("children", some (.arr (b.children.map Span.toJson)))]
  have htype := hkept "_type" _ rfl
  have hkey := hkept "_key" _ rfl
  have hchildren := hkept "children" _ rfl
  rw [TextBlock.encode, hobj, blockFault?]
  by_cases hk : b.key = ""
  · simp [has_iff hkey, hk]
  · simp [has_iff htype, has_iff hkey, htype, hchildren, hk, spansFault?_map_toJson]

/-- **What the check finds wrong in a block** does not depend on its form. -/
theorem blockFault?_encode (h : Json.KeepsFields object) (b : Block) :
    blockFault? index (b.encode object) =
      if b.key = "" then some (.unidentified index)
      else if ∀ s ∈ b.spans, s.key ≠ "" then none else some (.badSpan index) := by
  cases b with
  | text b => exact blockFault?_text h b
  | code _ | highlight _ | image _ | table _ | separator _ =>
    refine (blockFault?_object h rfl rfl (by decide) (by decide)).trans ?_
    simp [Block.spans, Block.key]

theorem blockFault?_encode_eq_none_iff (h : Json.KeepsFields object) (b : Block) :
    blockFault? index (b.encode object) = none ↔ b.Keyed := by
  rw [blockFault?_encode h, Block.Keyed]
  split <;> simp_all

/-! ### Documents -/

/-- What the check finds wrong first does not depend on the form of the blocks. -/
theorem firstFault?_map_encode {object' : List (String × Option Json) → Json}
    (h : Json.KeepsFields object) (h' : Json.KeepsFields object') (bs : List Block) :
    firstFault? start (bs.map (Block.encode object)) =
      firstFault? start (bs.map (Block.encode object')) := by
  induction bs generalizing start with
  | nil => rfl
  | cons b bs ih =>
    rw [List.map_cons, List.map_cons, firstFault?, firstFault?, blockFault?_encode h,
      blockFault?_encode h', ih]

/-- **Blocks have the same faults in their two forms.** -/
theorem faultOf?_eq_fault? (bs : List Block) : faultOf? bs = fault? (Block.listToJson bs) :=
  firstFault?_map_encode Json.keepsFields_ofAllFields Json.keepsFields_ofFields bs

theorem firstFault?_map_encode_eq_none_iff (h : Json.KeepsFields object) {bs : List Block} :
    firstFault? start (bs.map (Block.encode object)) = none ↔ ∀ b ∈ bs, b.Keyed := by
  induction bs generalizing start with
  | nil => simp [firstFault?]
  | cons b bs ih =>
    have hhead : blockFault? start (b.encode object) = none ↔ b.Keyed :=
      blockFault?_encode_eq_none_iff h b
    have htail : firstFault? (start + 1) (bs.map (Block.encode object)) = none ↔
        ∀ b ∈ bs, b.Keyed := ih
    rw [List.map_cons, firstFault?, List.forall_mem_cons, ← hhead, ← htail]
    cases blockFault? start (b.encode object) <;> simp

/-- **The blocks that are accepted** are those whose keys, and whose spans' keys, are not empty. -/
theorem fit_iff_keyed {bs : List Block} : fit bs = true ↔ ∀ b ∈ bs, b.Keyed := by
  rw [fit, Option.isNone_iff_eq_none]
  exact firstFault?_map_encode_eq_none_iff Json.keepsFields_ofAllFields

theorem fit_eq_wellShaped (bs : List Block) : fit bs = wellShaped (Block.listToJson bs) := by
  rw [fit, wellShaped, faultOf?_eq_fault?]

end Shape

/-- What conversion makes is keyed if the source gives no empty key. -/
theorem keyed_of_convert {source : Key.Source} {start stop : Nat} {ns : List Node}
    {bs : List Block} (hs : ∀ i k, source i = .ok k → k ≠ "")
    (h : (convert ns).run source start = .ok (bs, stop)) : ∀ b ∈ bs, b.Keyed := by
  intro b hb
  refine Block.keyed_of_keys fun k hk => ?_
  have hmem : k ∈ bs.flatMap Block.keys := List.mem_flatMap.mpr ⟨b, hb, hk⟩
  obtain ⟨i, hi⟩ := (Conversion.drawn_convert h).exists_of_mem hmem
  exact hs i k hi

/-- **The shape check** gives one answer for both forms of blocks. It accepts those in which the
keys that it reads are not empty, and so whatever conversion makes with a source that gives no empty
key. -/
theorem forms_fit_iff_keyed (bs : List Block) :
    Shape.fit bs = Shape.wellShaped (Block.listToJson bs) ∧
      (Shape.fit bs = true ↔ ∀ b ∈ bs, b.Keyed) ∧
      ∀ (source : Key.Source) (start stop : Nat) (ns : List Node),
        (∀ i k, source i = .ok k → k ≠ "") → (convert ns).run source start = .ok (bs, stop) →
          Shape.fit bs = true ∧ Shape.wellShaped (Block.listToJson bs) = true := by
  have hforms := Shape.fit_eq_wellShaped bs
  refine ⟨hforms, Shape.fit_iff_keyed, fun source start stop ns hs h => ?_⟩
  have hfit : Shape.fit bs = true := Shape.fit_iff_keyed.mpr (keyed_of_convert hs h)
  exact ⟨hfit, hforms ▸ hfit⟩

/-- The counted source never gives an empty key. -/
theorem counted_ne_empty (i : Nat) (k : String) (h : Key.Source.counted i = .ok k) : k ≠ "" := by
  obtain rfl : "k" ++ toString i = k := Except.ok.inj h
  simp

/-- A document with a table and a quotation is accepted in both forms. -/
theorem forms_of_table_and_blockquote :
    (convert
        [.plain .table ""
          [.plain (.other "tbody") "" [.plain (.other "tr") "" [.plain (.other "td") ""
            [.plain .container "" [.plain .text "a" []]]]]],
          .plain .blockquote ""
            [.plain .paragraph "" [.plain .container "b" [.plain .text "b" []]]]]).run
        Key.Source.counted 0 =
      .ok
        ([.table ⟨"k4", [⟨"k0", [⟨"k1", [⟨"k3", .normal, none, none, [⟨"k2", "a", []⟩]⟩]⟩]⟩]⟩,
          .text ⟨"k5", .blockquote, none, none, [⟨"k6", "b", []⟩]⟩], 7) ∧
    Shape.fit
        [.table ⟨"k4", [⟨"k0", [⟨"k1", [⟨"k3", .normal, none, none, [⟨"k2", "a", []⟩]⟩]⟩]⟩]⟩,
          .text ⟨"k5", .blockquote, none, none, [⟨"k6", "b", []⟩]⟩] = true := by
  suffices h : _ from
    ⟨h, ((forms_fit_iff_keyed _).2.2 Key.Source.counted 0 7 _ counted_ne_empty h).1⟩
  rfl

/-- A span without a key matters in a quotation, but not in the content of a highlight. -/
example :
    Shape.fit [.text ⟨"k", .blockquote, none, none, [⟨"", "a", []⟩]⟩] = false ∧
      Shape.fit [.highlight ⟨"k", .note, none, [⟨"", .blockquote, none, none, [⟨"", "a", []⟩]⟩]⟩] =
        true := by
  decide

end ContentBlocks
