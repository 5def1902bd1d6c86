import ContentBlocks.Block.Decode
import ContentBlocks.Block.Encode
import ContentBlocks.Proofs.Json.Fields

/-!
# Reading back what was written

Nothing is lost when blocks are written as JSON: reading gives the same blocks back. A part that is
absent may be left out or written as null, and both are read as its absence. Blocks that were read
from JSON of another making, with plain names, fields left out or numbers as texts, are read again
from what they are written as.

## Main definitions

* `FieldName.Holds`: what is found under a name
* `Decode.Reads`: a check that gives back what was written
* `Decode.ReadsAs`: an object that says of what kind it is and is read back

## Main results

* `Decode.readsAs_textBlock` and its like: the kinds of block, one by one
* `Decode.reads_block`: a block, however its fields make objects
* `blocks_read_back`: a list of blocks, and what was read from any JSON
-/

namespace ContentBlocks

open Schema

/-! ### Fields -/

/-- What is found under a name: a value, or for its absence nothing or null. -/
def FieldName.Holds (name : FieldName) (kept : List (String × Json)) (v : Option Json) : Prop :=
  name.find? kept = v ∨ v = none ∧ name.find? kept = some .null

/-- A field is found under the name that it was written under, and an absent one not under its plain
name either. -/
theorem Json.Keeps.holds {name : FieldName} {kept : List (String × Json)}
    {fields : List (String × Option Json)} {v : Option Json} (hkept : Json.Keeps kept fields)
    (hwritten : fields.lookup name.written = some v)
    (hplain : name.plain = name.written ∨ fields.lookup name.plain = none) :
    name.Holds kept v := by
  have habsent : kept.lookup name.written = none → kept.lookup name.plain = none := by
    intro h
    rcases hplain with hplain | hplain
    · rw [hplain, h]
    · rcases hkept name.plain with hk | hk <;> rw [hk, hplain] <;> rfl
  rcases hkept name.written with h | h <;> rw [hwritten] at h <;> cases v with
  | some v => exact .inl (by rw [FieldName.find?, h]; rfl)
  | none => ?_
  · exact .inl (by rw [FieldName.find?, h, habsent h]; rfl)
  · exact .inr ⟨rfl, by rw [FieldName.find?, h]; rfl⟩

namespace Decode

/-- A check that gives back what was written. -/
def Reads {α : Type} (check : Json → Checked α) (write : α → Json) : Prop :=
  ∀ a, check (write a) = .ok a

section Fields

variable {α : Type} (name : FieldName) {kept : List (String × Json)} {check : Json → Checked α}
  {a : α} {v : Json}

theorem find?_of_holds {name : FieldName} (h : name.Holds kept (some v)) :
    name.find? kept = some v := by
  obtain h | ⟨h, -⟩ := h
  · exact h
  · cases h

theorem required_of_holds (h : name.Holds kept (some v)) (hv : check v = .ok a) :
    name.required check kept = .ok a := by
  simp only [FieldName.required, find?_of_holds h, hv, Checked.under_ok]

theorem withDefault_of_holds (default : α) (h : name.Holds kept (some v)) (hv : check v = .ok a) :
    name.withDefault check default kept = .ok a := by
  simp only [FieldName.withDefault, find?_of_holds h, hv, Checked.under_ok]

/-- A part that may be absent is read as it was written, and as absent from null too. -/
theorem withDefault_optional {write : α → Json} (part : Option α)
    (h : name.Holds kept (part.map write)) (hread : Reads check write)
    (hnull : ∀ a, write a ≠ .null) :
    name.withDefault (optional check) none kept = .ok part := by
  cases part with
  | none => rcases h with h | ⟨-, h⟩ <;> simp [FieldName.withDefault, h, optional]
  | some a =>
    refine withDefault_of_holds name none h ?_
    rw [optional.eq_2 _ _ (hnull a), hread a]
    rfl

/-- The key and the kind that every object begins with. -/
theorem keyed_of_holds {typeName key : String} {build : String → α}
    (hkey : FieldName.key.Holds kept (some (.str key)))
    (htype : FieldName.type.Holds kept (some (.str typeName))) :
    keyed typeName build kept = .ok (build key) := by
  have htext : text (.str key) = .ok key := rfl
  have hexactly : exactly typeName (.str typeName) = .ok () := if_pos rfl
  simp only [keyed, required_of_holds _ hkey htext, withDefault_of_holds _ () htype hexactly,
    Checked.both_ok]

end Fields

/-! ### Parts -/

section Parts

variable {α : Type} {check : Json → Checked α} {write : α → Json}

theorem reads_text : Reads text Json.str := fun _ => rfl

theorem reads_level : Reads level fun l => .int l.val := by
  rintro ⟨n, hone, hsix⟩
  have hlt : ¬ (n : Int) < 1 := by omega
  simp [level, Scalar.ofJson, Scalar.toWhole, hlt, Level.ofNat?, hone, hsix]

theorem reads_mark : Reads (oneOf Mark.all Mark.name) fun m => .str m.name := by
  intro m
  cases m <;> rfl

theorem reads_listKind : Reads (oneOf ListKind.all ListKind.name) fun k => .str k.name := by
  intro k
  cases k <;> rfl

theorem reads_highlightKind :
    Reads (oneOf HighlightKind.all HighlightKind.name) fun k => .str k.name := by
  intro k
  cases k <;> rfl

theorem mem_all_styles (s : Style) : s ∈ Style.all := by
  cases s with
  | normal => decide
  | blockquote => decide
  | heading l =>
    have hl : Style.heading l ∈ Style.headings := by
      have hone := l.one_le
      have hsix := l.le_six
      refine List.mem_filterMap.mpr ⟨l.val - 1, List.mem_range.mpr (by omega), ?_⟩
      simp [Level.ofNat?, Nat.sub_add_cancel hone, hone, hsix]
    simp [Style.all, hl]

/-- The names of the styles are all different. -/
theorem find?_style_name :
    ∀ s ∈ Style.all, Style.all.find? (fun s' => s'.name == s.name) = some s := by
  decide

theorem reads_style : Reads (oneOf Style.all Style.name) fun s => .str s.name := by
  intro s
  simp only [oneOf, find?_style_name s (mem_all_styles s)]

/-- The members of a list are read one by one, from whatever number they are counted. -/
theorem list_map_write (h : Reads check write) (as : List α) (start : Nat) :
    Checked.list check start (as.map write) = .ok as := by
  induction as generalizing start with
  | nil => rfl
  | cons a as ih =>
    simp only [List.map_cons, Checked.list, h a, ih, Checked.under_ok, Checked.both_ok]

theorem reads_items (h : Reads check write) : Reads (items check) fun as => .arr (as.map write) :=
  fun as => list_map_write h as 0

end Parts

/-! ### Objects that are read back -/

section Kinds

variable {α β : Type} {object : List (String × Option Json) → Json}

/-- An object that says of what kind it is, and whose fields are read as `a`. -/
def ReadsAs (typeName : String) (check : List (String × Json) → Checked α) (v : Json) (a : α) :
    Prop :=
  ∃ kept, v = .obj kept ∧ FieldName.type.Holds kept (some (.str typeName)) ∧ check kept = .ok a

theorem ReadsAs.object_eq (typeName : String) {check : List (String × Json) → Checked α} {v : Json}
    {a : α} (h : ReadsAs typeName check v a) : Decode.object check v = .ok a := by
  obtain ⟨kept, rfl, -, hcheck⟩ := h
  exact hcheck

/-- An object is read back if its fields are, from wherever they can be found. Its key and its kind
come first. -/
theorem ReadsAs.of_faithful (h : Json.Faithful object) (build : String → β) {typeName key : String}
    {rest : List (String × Option Json)} {check : List (String × Json) → Checked α} {a : α}
    (hnames : ("_key" :: "_type" :: "key" :: "type" :: rest.map Prod.fst).Nodup)
    (hcheck : ∀ kept,
      Json.Keeps kept (("_key", some (.str key)) :: ("_type", some (.str typeName)) :: rest) →
        keyed typeName build kept = .ok (build key) → check kept = .ok a) :
    ReadsAs typeName check
      (object (("_key", some (.str key)) :: ("_type", some (.str typeName)) :: rest)) a := by
  have hnodup : ("_key" :: "_type" :: rest.map Prod.fst).Nodup :=
    hnames.sublist (.cons_cons _ (.cons_cons _ (.cons _ (.cons _ (.refl _)))))
  simp only [List.nodup_cons, List.mem_cons, not_or] at hnames
  obtain ⟨kept, hobj, hkept⟩ :=
    h (("_key", some (.str key)) :: ("_type", some (.str typeName)) :: rest) hnodup
  have hk : FieldName.key.Holds kept (some (.str key)) :=
    hkept.holds rfl (.inr (show rest.lookup "key" = none from
      Json.lookup_eq_none_of_not_mem hnames.2.2.1.2))
  have ht : FieldName.type.Holds kept (some (.str typeName)) :=
    hkept.holds rfl (.inr (show rest.lookup "type" = none from
      Json.lookup_eq_none_of_not_mem hnames.2.2.2.1))
  exact ⟨kept, hobj, ht, hcheck kept hkept (keyed_of_holds hk ht)⟩

/-- What is made of the fields may be made of what they are read as. -/
theorem ReadsAs.map {typeName : String} {check : List (String × Json) → Checked α} {v : Json}
    {a : α} (h : ReadsAs typeName check v a) (f : α → β) :
    ReadsAs typeName (fun fields => (check fields).map f) v (f a) := by
  obtain ⟨kept, rfl, htype, hcheck⟩ := h
  exact ⟨kept, rfl, htype, congrArg (Except.map f) hcheck⟩

/-- A block is read by the check of the kind that it says it is of. -/
theorem ReadsAs.block_eq {typeName : String} {check : List (String × Json) → Checked Block}
    {v : Json} {b : Block} (h : ReadsAs typeName check v b)
    (htag : ∀ fields, tagged typeName fields = some (.under (.field typeName) (check fields))) :
    block v = .ok b := by
  obtain ⟨kept, rfl, htype, hcheck⟩ := h
  simp only [block, find?_of_holds htype, htag, hcheck, Checked.under_ok]

/-! ### Kinds -/

theorem toJson_span (s : Span) :
    s.toJson = Json.ofFields
      [("_key", some (.str s.key)), ("_type", some (.str "span")), ("text", some (.str s.text)),
        ("marks", some (.arr (s.marks.map fun m => .str m.name)))] := rfl

theorem reads_span : Reads span Span.toJson := by
  intro s
  rw [toJson_span]
  refine ReadsAs.object_eq "span" ?_
  refine .of_faithful Json.faithful_ofFields Span.mk (by simp) fun kept hkept hkeyed => ?_
  have htext := withDefault_of_holds (.same "text") "" (hkept.holds rfl (.inl rfl))
    (reads_text s.text)
  have hmarks := withDefault_of_holds (.same "marks") [] (hkept.holds rfl (.inl rfl))
    (reads_items reads_mark s.marks)
  simp only [hkeyed, htext, hmarks, Checked.both_ok]

variable (h : Json.Faithful object)
include h

theorem readsAs_textBlock (b : TextBlock) :
    ReadsAs "block" textBlockFields (b.encode object) b := by
  refine .of_faithful h TextBlock.mk (by simp) fun kept hkept hkeyed => ?_
  have hstyle := withDefault_of_holds (.same "style") .normal
    (hkept.holds rfl (.inl rfl)) (reads_style b.style)
  have hlevel := withDefault_optional (.same "level") b.level
    (hkept.holds rfl (.inl rfl)) reads_level nofun
  have hitem := withDefault_optional ⟨"listItem", "list_item"⟩ b.listItem
    (hkept.holds rfl (.inr rfl)) reads_listKind nofun
  have hchildren := withDefault_of_holds (.same "children") []
    (hkept.holds rfl (.inl rfl)) (reads_items reads_span b.children)
  simp only [textBlockFields, hkeyed, hstyle, hlevel, hitem, hchildren, Checked.both_ok]

theorem readsAs_codeBlock (b : CodeBlock) :
    ReadsAs "codeBlock" codeBlockFields (b.encode object) b := by
  refine .of_faithful h CodeBlock.mk (by simp) fun kept hkept hkeyed => ?_
  have hlanguage := withDefault_optional (.same "language") b.language
    (hkept.holds rfl (.inl rfl)) reads_text nofun
  have hfilename := withDefault_optional (.same "filename") b.filename
    (hkept.holds rfl (.inl rfl)) reads_text nofun
  have hcode := withDefault_of_holds (.same "code") ""
    (hkept.holds rfl (.inl rfl)) (reads_text b.code)
  simp only [codeBlockFields, hkeyed, hlanguage, hfilename, hcode, Checked.both_ok]

theorem reads_textBlock : Reads textBlock (TextBlock.encode object) :=
  fun b => (readsAs_textBlock h b).object_eq _

theorem readsAs_highlight (b : HighlightBlock) :
    ReadsAs "highlightBlock" highlightFields (b.encode object) b := by
  refine .of_faithful h HighlightBlock.mk (by simp) fun kept hkept hkeyed => ?_
  have hkind := required_of_holds (.same "kind")
    (hkept.holds rfl (.inl rfl)) (reads_highlightKind b.kind)
  have htitle := withDefault_optional (.same "title") b.title
    (hkept.holds rfl (.inl rfl)) reads_text nofun
  have hcontent := withDefault_of_holds (.same "content") []
    (hkept.holds rfl (.inl rfl)) (reads_items (reads_textBlock h) b.content)
  simp only [highlightFields, hkeyed, hkind, htitle, hcontent, Checked.both_ok]

theorem readsAs_image (b : ImageBlock) : ReadsAs "image" imageFields (b.encode object) b := by
  refine .of_faithful h ImageBlock.mk (by simp) fun kept hkept hkeyed => ?_
  have hsource := required_of_holds ⟨"assetRef", "asset_ref"⟩
    (hkept.holds rfl (.inr rfl)) (reads_text b.assetRef)
  have halt := withDefault_optional (.same "alt") b.alt
    (hkept.holds rfl (.inl rfl)) reads_text nofun
  have hcaption := withDefault_optional (.same "caption") b.caption
    (hkept.holds rfl (.inl rfl)) reads_text nofun
  simp only [imageFields, hkeyed, hsource, halt, hcaption, Checked.both_ok]

theorem reads_tableCell : Reads tableCell (TableCell.encode object) := by
  refine fun c => ReadsAs.object_eq "tableCell" ?_
  refine .of_faithful h TableCell.mk (by simp) fun kept hkept hkeyed => ?_
  have hcontent := withDefault_of_holds (.same "content") []
    (hkept.holds rfl (.inl rfl)) (reads_items (reads_textBlock h) c.content)
  simp only [hkeyed, hcontent, Checked.both_ok]

theorem reads_tableRow : Reads tableRow (TableRow.encode object) := by
  refine fun r => ReadsAs.object_eq "tableRow" ?_
  refine .of_faithful h TableRow.mk (by simp) fun kept hkept hkeyed => ?_
  have hcells := withDefault_of_holds (.same "cells") []
    (hkept.holds rfl (.inl rfl)) (reads_items (reads_tableCell h) r.cells)
  simp only [hkeyed, hcells, Checked.both_ok]

theorem readsAs_table (b : TableBlock) : ReadsAs "table" tableFields (b.encode object) b := by
  refine .of_faithful h TableBlock.mk (by simp) fun kept hkept hkeyed => ?_
  have hrows := withDefault_of_holds (.same "rows") []
    (hkept.holds rfl (.inl rfl)) (reads_items (reads_tableRow h) b.rows)
  simp only [tableFields, hkeyed, hrows, Checked.both_ok]

/-- **A block is read back from its form**, in whatever faithful way objects are made. -/
theorem reads_block : Reads block (Block.encode object)
  | .text b => ((readsAs_textBlock h b).map Block.text).block_eq fun _ => rfl
  | .code b => ((readsAs_codeBlock h b).map Block.code).block_eq fun _ => rfl
  | .highlight b => ((readsAs_highlight h b).map Block.highlight).block_eq fun _ => rfl
  | .image b => ((readsAs_image h b).map Block.image).block_eq fun _ => rfl
  | .table b => ((readsAs_table h b).map Block.table).block_eq fun _ => rfl
  | .separator _ =>
    (ReadsAs.of_faithful h Block.separator (by simp) fun _ _ hkeyed => hkeyed).block_eq
      fun _ => rfl

end Kinds

end Decode

/-- **Blocks are read back from what they are written as**, and so are blocks that were read from
any JSON: writing them and reading them again changes nothing. -/
theorem blocks_read_back :
    (∀ bs : List Block, Decode.items Decode.block (Block.listToJson bs) = .ok bs) ∧
      ∀ v : Json, ((Decode.items Decode.block v).bind fun bs =>
        Decode.items Decode.block (Block.listToJson bs)) = Decode.items Decode.block v := by
  have hback : ∀ bs : List Block, Decode.items Decode.block (Block.listToJson bs) = .ok bs :=
    Decode.reads_items (Decode.reads_block Json.faithful_ofFields)
  refine ⟨hback, fun v => ?_⟩
  cases Decode.items Decode.block v with
  | error issues => rfl
  | ok bs => exact hback bs

/-- Plain names, a level as a text and a field left out: what is read is written in another way. -/
example :
    Decode.items Decode.block
        (.arr [.obj [("type", .str "block"), ("key", .str "k"), ("style", .str "h2"),
          ("level", .str "2"), ("more", .null)]]) =
      .ok
        [.text
          ⟨"k", .heading ⟨2, by decide, by decide⟩, some ⟨2, by decide, by decide⟩, none, []⟩] :=
  rfl

end ContentBlocks
