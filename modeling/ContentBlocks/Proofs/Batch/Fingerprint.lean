import ContentBlocks.Proofs.Batch.Sources
import ContentBlocks.Proofs.Text.Encoding

/-!
# Fingerprints

The fingerprint of a document is made from the text of its source, and that text is not what the
file holds: a file may end its lines in three ways, and the text has one of them throughout. So the
bytes that are hashed are those of the file with the ends of the lines made alike, while the size is
that of the file as it is. Both belong to the same bytes just if the file holds no carriage return.

## Main definitions

* `Source.unifyBytes`: bytes whose lines all end alike
* `Source.breakPairs`: how many ends of lines are made of two bytes
* `Source.Hashes`: what a source and its documents have of the bytes of its file

## Main results

* `Source.utf8_of_textOf`: the bytes of the text of a file
* `Source.length_unifyBytes`: how many bytes are lost
* `Source.fingerprint_of_read`: what is hashed, and when it is the file itself
-/

namespace ContentBlocks.Source

open Storage (Disk Path)
open String (utf8EncodeChar)

/-! ### Ends of lines among bytes -/

/-- Bytes whose lines all end in a line feed (10): a carriage return (13) counts as one, and a
carriage return with a line feed behind it as a single one. -/
def unifyBytes : List UInt8 → List UInt8
  | [] => []
  | 13 :: 10 :: bs => 10 :: unifyBytes bs
  | 13 :: bs => 10 :: unifyBytes bs
  | b :: bs => b :: unifyBytes bs

theorem unifyBytes_cons_of_ne {b : UInt8} (hb : b ≠ 13) (bs : List UInt8) :
    unifyBytes (b :: bs) = b :: unifyBytes bs :=
  unifyBytes.eq_4 b bs (fun _ h _ => hb h) hb

theorem unifyBytes_append_of_not_mem {bs : List UInt8} (h : 13 ∉ bs) (rest : List UInt8) :
    unifyBytes (bs ++ rest) = bs ++ unifyBytes rest := by
  induction bs with
  | nil => rfl
  | cons b bs ih =>
    rw [List.mem_cons, not_or] at h
    rw [List.cons_append, unifyBytes_cons_of_ne (Ne.symm h.1), ih h.2, List.cons_append]

theorem not_mem_unifyBytes (bs : List UInt8) : 13 ∉ unifyBytes bs := by
  induction bs using unifyBytes.induct with
  | case1 => simp [unifyBytes]
  | case2 bs ih => simp [unifyBytes, ih]
  | case3 bs hbs ih => simp [unifyBytes.eq_3 bs hbs, ih]
  | case4 b bs _ hb ih => simp [unifyBytes_cons_of_ne hb, ih, Ne.symm hb]

/-- Bytes without a carriage return are left as they are, and no others are. -/
theorem unifyBytes_eq_self_iff {bs : List UInt8} : unifyBytes bs = bs ↔ 13 ∉ bs := by
  constructor
  · intro h
    rw [← h]
    exact not_mem_unifyBytes bs
  · intro h
    simpa [unifyBytes] using unifyBytes_append_of_not_mem h []

/-- How often a carriage return has a line feed behind it. -/
def breakPairs (bs : List UInt8) : Nat := (bs.zip bs.tail).count (13, 10)

theorem breakPairs_cons {b : UInt8} {bs : List UInt8} (h : ¬ (b = 13 ∧ bs.head? = some 10)) :
    breakPairs (b :: bs) = breakPairs bs := by
  cases bs with
  | nil => rfl
  | cons b' bs =>
    have hne : (b, b') ≠ (13, 10) := by simpa using h
    exact List.count_cons_of_ne hne

theorem breakPairs_pair (bs : List UInt8) : breakPairs (13 :: 10 :: bs) = breakPairs bs + 1 :=
  calc breakPairs (13 :: 10 :: bs)
      = breakPairs (10 :: bs) + 1 := List.count_cons_self
    _ = breakPairs bs + 1 := by rw [breakPairs_cons fun h => absurd h.1 (by decide)]

/-- **How many bytes are lost**: one for each carriage return with a line feed behind it. -/
theorem length_unifyBytes (bs : List UInt8) :
    bs.length = (unifyBytes bs).length + breakPairs bs := by
  -- along the recursion of `unifyBytes`, where only a pair loses a byte
  induction bs using unifyBytes.induct with
  | case1 => rfl
  | case2 bs ih =>
    rw [breakPairs_pair, unifyBytes]
    simp only [List.length_cons]
    omega
  | case3 bs hbs ih =>
    have hhead : ¬ ((13 : UInt8) = 13 ∧ bs.head? = some 10) := fun h => by
      obtain ⟨rest, hrest⟩ := List.head?_eq_some_iff.mp h.2
      exact hbs rest hrest
    rw [breakPairs_cons hhead, unifyBytes.eq_3 bs hbs, List.length_cons, List.length_cons]
    omega
  | case4 b bs _ hb ih =>
    rw [breakPairs_cons fun h => hb h.1, unifyBytes_cons_of_ne hb, List.length_cons,
      List.length_cons]
    omega

/-! ### The text of a file -/

theorem eq_lineFeed_of_encode {cs : List Char} {bs : List UInt8}
    (h : cs.flatMap utf8EncodeChar = 10 :: bs) : ∃ cs', cs = '\n' :: cs' := by
  cases cs with
  | nil => cases h
  | cons c cs =>
    have hne : utf8EncodeChar c ≠ [] := by
      rw [← List.length_pos_iff, String.length_utf8EncodeChar]
      exact c.utf8Size_pos
    obtain ⟨b, rest, hc⟩ := List.exists_cons_of_ne_nil hne
    rw [List.flatMap_cons, hc, List.cons_append, List.cons.injEq] at h
    have hmem : (10 : UInt8) ∈ utf8EncodeChar c := by
      rw [hc, h.1]
      exact List.mem_cons_self
    have hnat : c.toNat = 10 := (Text.mem_encodeChar_iff (by decide)).mp hmem
    obtain rfl : c = '\n' := Char.toNat_inj.mp hnat
    exact ⟨cs, rfl⟩

/-- Ends of lines are made alike among the characters or among the bytes. -/
theorem unifyBytes_encode (cs : List Char) :
    unifyBytes (cs.flatMap utf8EncodeChar) = (unifyBreaks cs).flatMap utf8EncodeChar := by
  induction cs using unifyBreaks.induct with
  | case1 => rfl
  | case2 cs ih => exact congrArg (10 :: ·) ih
  | case3 cs hcs ih =>
    -- no character but a line feed begins with the byte of one
    have hbytes : ∀ bs, cs.flatMap utf8EncodeChar = 10 :: bs → False := by
      intro bs h
      obtain ⟨cs', rfl⟩ := eq_lineFeed_of_encode h
      exact hcs cs' rfl
    rw [unifyBreaks.eq_3 cs hcs]
    exact (unifyBytes.eq_3 _ hbytes).trans (congrArg (10 :: ·) ih)
  | case4 c cs hbreak hc ih =>
    have hmem : 13 ∉ utf8EncodeChar c := by
      rw [Text.mem_encodeChar_iff (by decide)]
      exact fun h => hc (Char.toNat_inj.mp h)
    rw [unifyBreaks.eq_4 c cs hbreak hc, List.flatMap_cons, List.flatMap_cons,
      unifyBytes_append_of_not_mem hmem, ih]

/-- **The bytes of the text of a file** are those of the file with the ends of its lines made
alike. -/
theorem utf8_of_textOf {bytes : List UInt8} {text : String} (h : textOf bytes = .ok text) :
    Text.utf8 text = unifyBytes bytes := by
  unfold textOf at h
  split at h
  · next s hs =>
    obtain rfl := Except.ok.inj h
    obtain rfl := Text.ofUtf8?_eq_some_iff.mp hs
    rw [Text.utf8_ofList, ← unifyBytes_encode, ← Text.utf8_ofList, String.ofList_toList]
  · cases h

/-! ### Fingerprints -/

/-- What a source and its documents have of the bytes of its file. -/
structure Hashes (source : Source) (bytes : List UInt8) : Prop where
  /-- What is hashed are the bytes with the ends of the lines made alike. -/
  text : Text.utf8 source.text = unifyBytes bytes
  /-- It is the file itself just if there is no carriage return in it. -/
  same_iff : Text.utf8 source.text = bytes ↔ 13 ∉ bytes
  /-- The size is that of the file. -/
  size : source.size = bytes.length
  /-- What is hashed is shorter by the number of carriage returns with a line feed behind them. -/
  shorter : source.size = (Text.utf8 source.text).length + breakPairs bytes
  /-- A document has this fingerprint and this size. -/
  document : ∀ blocks now doc, Document.ofSource? source blocks now = some doc →
    doc.hash = Digest.sha256 (unifyBytes bytes) ∧ doc.size = bytes.length

theorem hashes_of_textOf {source : Source} {bytes : List UInt8}
    (htext : textOf bytes = .ok source.text) (hsize : source.size = bytes.length) :
    source.Hashes bytes where
  text := utf8_of_textOf htext
  same_iff := by rw [utf8_of_textOf htext, unifyBytes_eq_self_iff]
  size := hsize
  shorter := by rw [utf8_of_textOf htext, hsize, ← length_unifyBytes]
  document blocks now doc hdoc := by
    obtain ⟨slug, header, -, -, rfl⟩ := Document.ofSource?_eq_some_iff.mp hdoc
    exact ⟨congrArg Digest.sha256 (utf8_of_textOf htext), hsize⟩

variable {load : String → Except Yaml.Failure Yaml.Value}

theorem hashes_of_find {d : Disk} {p : Path} {most : Int} {source : Source} {bytes : List UInt8}
    (h : read load d p most = .ok source) (hfile : d.find p = .ok (.file bytes)) :
    source.Hashes bytes := by
  obtain ⟨-, bytes', text, hfile', -, htext, hsource⟩ := read_eq_ok_iff.mp h
  rw [hfile, Except.ok.injEq, Storage.Entry.file.injEq] at hfile'
  subst hfile'
  obtain ⟨header, body, -, -, rfl⟩ := ofText_eq_ok_iff.mp hsource
  exact hashes_of_textOf htext rfl

/-- **What is hashed** for a source is its file with the ends of the lines made alike, and two
sources have the same hashed bytes just if their files agree up to that. -/
theorem fingerprint_of_read {d : Disk} {p : Path} {most : Int} {source : Source}
    (h : read load d p most = .ok source) :
    ∃ bytes, d.find p = .ok (.file bytes) ∧ source.Hashes bytes ∧
      ∀ load' d' p' most' source' bytes', read load' d' p' most' = .ok source' →
        d'.find p' = .ok (.file bytes') →
          ((Text.utf8 source.text = Text.utf8 source'.text ↔ unifyBytes bytes = unifyBytes bytes') ∧
            (13 ∉ bytes → 13 ∉ bytes' →
              (Text.utf8 source.text = Text.utf8 source'.text ↔ bytes = bytes'))) := by
  obtain ⟨-, bytes, -, hfile, -, -, -⟩ := read_eq_ok_iff.mp h
  have hsource := hashes_of_find h hfile
  refine ⟨bytes, hfile, hsource, fun load' d' p' most' source' bytes' h' hfile' => ?_⟩
  have hsource' := hashes_of_find h' hfile'
  refine ⟨by rw [hsource.text, hsource'.text], fun hno hno' => ?_⟩
  rw [hsource.same_iff.mpr hno, hsource'.same_iff.mpr hno']

/-- A disk with a header that ends its lines in one way and a body that ends them in another. -/
def mixedEnds : Disk := .ofTexts [("a.md", "---\n---\r\né\r\n\r")]

/-- Of a file that ends its lines in different ways the hashes are those of its text. -/
theorem fingerprint_of_mixed_ends :
    ∃ source, read Yaml.read mixedEnds (.ofText "a.md") 100 = .ok source ∧
      source.Hashes (Text.utf8 "---\n---\r\né\r\n\r") ∧ source.text = "---\n---\né\n\n" := by
  have hfile : mixedEnds.find (.ofText "a.md") =
      .ok (.file (Text.utf8 "---\n---\r\né\r\n\r")) := rfl
  obtain ⟨source, hread⟩ :
      ∃ source, read Yaml.read mixedEnds (.ofText "a.md") 100 = .ok source := by
    rw [← Batch.isOk_iff]
    decide +kernel
  obtain ⟨bytes, hfile', hhashes, -⟩ := fingerprint_of_read hread
  rw [hfile, Except.ok.injEq, Storage.Entry.file.injEq] at hfile'
  subst hfile'
  refine ⟨source, hread, hhashes, Text.utf8_inj.mp ?_⟩
  rw [hhashes.text]
  decide +kernel

/-- A disk with two files that end their line in different ways. -/
def twoEnds : Disk := .ofTexts [("a.md", "***\n"), ("b.md", "***\r\n")]

/-- The fingerprint is not that of the file: files that end their lines in other ways have the same
hashed bytes, which are not those of one of them. -/
theorem fingerprint_not_of_file :
    ∃ source source',
      read Yaml.read twoEnds (.ofText "a.md") 100 = .ok source ∧
        read Yaml.read twoEnds (.ofText "b.md") 100 = .ok source' ∧
        twoEnds.find (.ofText "b.md") = .ok (.file (Text.utf8 "***\r\n")) ∧
        Text.utf8 source'.text ≠ Text.utf8 "***\r\n" ∧
        Digest.sha256 (Text.utf8 source'.text) ≠ Digest.sha256 (Text.utf8 "***\r\n") ∧
        source'.size ≠ (Text.utf8 source'.text).length ∧
        Text.utf8 source.text = Text.utf8 source'.text := by
  obtain ⟨source, hread⟩ :
      ∃ source, read Yaml.read twoEnds (.ofText "a.md") 100 = .ok source := by
    rw [← Batch.isOk_iff]
    decide +kernel
  obtain ⟨source', hread'⟩ :
      ∃ source, read Yaml.read twoEnds (.ofText "b.md") 100 = .ok source := by
    rw [← Batch.isOk_iff]
    decide +kernel
  have hfile : twoEnds.find (.ofText "a.md") = .ok (.file (Text.utf8 "***\n")) := rfl
  have hfile' : twoEnds.find (.ofText "b.md") = .ok (.file (Text.utf8 "***\r\n")) := rfl
  have hhashes := hashes_of_find hread hfile
  have hhashes' := hashes_of_find hread' hfile'
  refine ⟨source, source', hread, hread', hfile', ?_, ?_, ?_, ?_⟩
  · rw [hhashes'.text]
    decide +kernel
  · rw [hhashes'.text]
    decide +kernel
  · rw [hhashes'.size, hhashes'.text]
    decide +kernel
  · rw [hhashes.text, hhashes'.text]
    decide +kernel

end ContentBlocks.Source
