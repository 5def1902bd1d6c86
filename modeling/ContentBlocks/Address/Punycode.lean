import ContentBlocks.Text.Class

/-!
# Punycode

The writing of labels of host names in ASCII: the ASCII characters of the label come first, and the
others follow as differences, in numerals with digits of changing weight.
-/

namespace ContentBlocks.Address.Punycode

/-- The threshold of the `j`-th digit of a numeral. -/
def threshold (j bias : Nat) : Nat :=
  let t : Int := 36 * (j + 1) - bias
  if t < 1 then 1 else if t > 26 then 26 else t.toNat

/-- How often a difference is divided by 35 until it is at most 455, and what is left. -/
def scale : Nat → Nat → Nat × Nat
  | 0, delta => (0, delta)
  | fuel + 1, delta =>
    if delta > 455 then
      let (n, rest) := scale fuel (delta / 35)
      (n + 1, rest)
    else (0, delta)

/-- The bias after a difference. -/
def adapt (delta : Nat) (first : Bool) (count : Nat) : Nat :=
  let delta := if first then delta / 700 else delta / 2
  let delta := delta + delta / count
  let (n, rest) := scale (delta + 1) delta
  36 * n + 36 * rest / (rest + 38)

/-- A digit. -/
def digitChar (d : Nat) : Char := if d < 26 then Char.ofNat (97 + d) else Char.ofNat (22 + d)

/-- The value of a digit. -/
def digitValue? (c : Char) : Option Nat :=
  let c := c.toUpper
  if 'A' ≤ c && c ≤ 'Z' then some (c.toNat - 65)
  else if c.isDigit then some (c.toNat - 22)
  else none

/-- The numeral of a difference, from its `j`-th digit on. -/
def numeral (bias : Nat) : Nat → Nat → Nat → List Char
  | 0, _, n => [digitChar n]
  | fuel + 1, j, n =>
    let t := threshold j bias
    if n < t then [digitChar n]
    else digitChar (t + (n - t) % (36 - t)) :: numeral bias fuel (j + 1) ((n - t) / (36 - t))

/-- How far the encoding of a label is. -/
structure Progress where
  out : List Char
  delta : Nat
  bias : Nat
  written : Nat
  first : Bool

/-- The effect of one character of the label while the characters with number `n` are written. -/
def Progress.step (n : Nat) (p : Progress) (c : Char) : Progress :=
  if c.toNat < n then { p with delta := p.delta + 1 }
  else if c.toNat = n then
    { out := p.out ++ numeral p.bias (p.delta + 1) 0 p.delta
      delta := 0
      bias := adapt p.delta p.first (p.written + 1)
      written := p.written + 1
      first := false }
  else p

/-- The effect of all characters with the next larger number, and so on.  The second argument is the
number reached, the third bounds the number of steps. -/
def Progress.run (label : List Char) (n : Nat) : Nat → Progress → Progress
  | 0, p => p
  | fuel + 1, p =>
    match (label.filter fun c => n ≤ c.toNat).map Char.toNat |>.min? with
    | none => p
    | some m =>
      let p := { p with delta := p.delta + (m - n) * (p.written + 1) }
      let p := label.foldl (Progress.step m) p
      Progress.run label (m + 1) fuel { p with delta := p.delta + 1 }

/-- A label in ASCII. -/
def encode (label : List Char) : List Char :=
  let base := label.filter (·.toNat < 128)
  let start := if base.isEmpty then [] else base ++ ['-']
  (Progress.run label 128 (label.length + 1) ⟨start, 0, 72, base.length, true⟩).out

/-- A numeral at the start of a text: its value and what follows. -/
def readNumeral? (bias : Nat) : Nat → Nat → List Char → Option (Nat × List Char)
  | _, _, [] => none
  | j, w, c :: cs => do
    let d ← digitValue? c
    let t := threshold j bias
    if d < t then return (d * w, cs)
    let (n, rest) ← readNumeral? bias (j + 1) (w * (36 - t)) cs
    return (d * w + n, rest)

/-- The characters that numerals insert into a label.  The first argument bounds their number,
`code` and `place` say where the last one went. -/
def insertAll? : Nat → Nat → Nat → Nat → Bool → List Char → List Char → Option (List Char)
  | 0, _, _, _, _, label, _ => some label
  | _, _, _, _, _, label, [] => some label
  | fuel + 1, code, place, bias, first, label, cs => do
    let (delta, rest) ← readNumeral? bias 0 1 cs
    let offset := place + delta
    let count := label.length + 1
    let code := code + offset / count
    if code > 0x10FFFF then none
    let place := offset % count
    let label := label.take place ++ Char.ofNat code :: label.drop place
    insertAll? fuel code (place + 1) (adapt delta first label.length) false label rest

/-- The label that a text in ASCII stands for, if it stands for one. -/
def decode? (cs : List Char) : Option (List Char) :=
  if cs.any fun c => c.toNat ≥ 128 then none
  else
    let back := cs.reverse
    let extended := (back.takeWhile (· ≠ '-')).reverse
    let base := ((back.dropWhile (· ≠ '-')).drop 1).reverse
    if cs.contains '-' then insertAll? (extended.length + 1) 128 0 72 true base extended
    else insertAll? (cs.length + 1) 128 0 72 true [] cs

end ContentBlocks.Address.Punycode
