/-!
# Texts of JSON values

The scanner of `encoding/json` as a machine that reads one byte after the other. 
`lexemes` is what a text says: its structure, its numbers and the contents of its
strings, without the space between them and however the strings are escaped, so that two
texts with the same lexemes are texts of the same value.

`compact` is how a text is embedded in another one.  `lexemes_compact` says that this
keeps the value; the scanner of the compact text stays in step with that of the text,
except that a number is known to end only at the next byte.
-/

namespace CallsPlugin.Verified.JsonText

/-- A text. -/
abbrev Bytes := List UInt8

/-- The byte of an ASCII character. -/
def ascii (c : Char) : UInt8 := c.toNat.toUInt8

def quotes : UInt8 := 0x22
def backslash : UInt8 := 0x5C
def openBrace : UInt8 := 0x7B
def closeBrace : UInt8 := 0x7D
def openBracket : UInt8 := 0x5B
def closeBracket : UInt8 := 0x5D

/-- `isSpace` -/
def isSpace (c : UInt8) : Bool :=
  c = 0x20 || c = 0x09 || c = 0x0D || c = 0x0A

def isDigit (c : UInt8) : Bool := ascii '0' ≤ c && c ≤ ascii '9'

/-- The value of a hexadecimal digit. -/
def hexDigit (c : UInt8) : Option Nat :=
  if isDigit c then some (c - ascii '0').toNat
  else if ascii 'a' ≤ c && c ≤ ascii 'f' then some ((c - ascii 'a').toNat + 10)
  else if ascii 'A' ≤ c && c ≤ ascii 'F' then some ((c - ascii 'A').toNat + 10)
  else none

/-! ## The scanner -/

/-- Where a number is, by its last byte. -/
inductive Number where
  | neg
  | zero
  | int
  | dot
  | fraction
  | exp
  | expSign
  | expDigits
  deriving DecidableEq, Repr

/-- How a number goes on. -/
def Number.next (c : UInt8) : Number → Option Number
  | neg => if c = ascii '0' then some zero else if isDigit c then some int else none
  | zero => if c = ascii '.' then some dot
      else if c = ascii 'e' || c = ascii 'E' then some exp else none
  | int => if isDigit c then some int else if c = ascii '.' then some dot
      else if c = ascii 'e' || c = ascii 'E' then some exp else none
  | dot => if isDigit c then some fraction else none
  | fraction => if isDigit c then some fraction
      else if c = ascii 'e' || c = ascii 'E' then some exp else none
  | exp => if c = ascii '+' || c = ascii '-' then some expSign
      else if isDigit c then some expDigits else none
  | expSign => if isDigit c then some expDigits else none
  | expDigits => if isDigit c then some expDigits else none

/-- A number may end here. -/
def Number.ends : Number → Bool
  | zero | int | fraction | expDigits => true
  | _ => false

/-- What has been read of `true`, `false` or `null`. -/
inductive Literal where
  | t
  | tr
  | tru
  | f
  | fa
  | fal
  | fals
  | n
  | nu
  | nul
  deriving DecidableEq, Repr

/-- The next byte of a literal, and where it is then if it has not ended. -/
def Literal.next : Literal → UInt8 × Option Literal
  | t => (ascii 'r', some tr)
  | tr => (ascii 'u', some tru)
  | tru => (ascii 'e', none)
  | f => (ascii 'a', some fa)
  | fa => (ascii 'l', some fal)
  | fal => (ascii 's', some fals)
  | fals => (ascii 'e', none)
  | n => (ascii 'u', some nu)
  | nu => (ascii 'l', some nul)
  | nul => (ascii 'l', none)

/-- What an open object or array waits for: `parseObjectKey`, `parseObjectValue` and
`parseArrayValue`. -/
inductive Frame where
  | objectKey
  | objectValue
  | arrayValue
  deriving DecidableEq, Repr

/-- What comes next. -/
inductive Mode where
  | beginValueOrEmpty
  | beginValue
  | beginStringOrEmpty
  | beginString
  | endValue
  | inString
  | inStringEsc
  /-- the code read so far and the digits to come -/
  | inStringEscU (code left : Nat)
  | number (n : Number)
  | literal (l : Literal)
  deriving DecidableEq, Repr

structure Scanner where
  mode : Mode
  stack : List Frame
  deriving DecidableEq, Repr

/-- A part of a text: a byte of its structure, of a number or of a literal, an end of a
string, or a byte of the contents of a string; a surrogate stands for itself. -/
inductive Lexeme where
  | char (c : UInt8)
  | quote
  | content (c : UInt8)
  | surrogate (code : Nat)
  deriving DecidableEq, Repr

/-- The contents an escaped code stands for, in UTF-8. -/
def decodeUnit (code : Nat) : List Lexeme :=
  if code < 0x80 then [.content code.toUInt8]
  else if code < 0x800 then
    [.content (0xC0 + code / 64).toUInt8, .content (0x80 + code % 64).toUInt8]
  else if 0xD800 ≤ code ∧ code < 0xE000 then [.surrogate code]
  else
    [.content (0xE0 + code / 4096).toUInt8, .content (0x80 + code / 64 % 64).toUInt8,
      .content (0x80 + code % 64).toUInt8]

/-- The byte that an escape other than `u` stands for. -/
def unescape (c : UInt8) : Option UInt8 :=
  if c = ascii 'b' then some 0x08
  else if c = ascii 'f' then some 0x0C
  else if c = ascii 'n' then some 0x0A
  else if c = ascii 'r' then some 0x0D
  else if c = ascii 't' then some 0x09
  else if c = backslash || c = ascii '/' || c = quotes then some c
  else none

/-- The scanner goes on as `mode` and keeps the byte. -/
def keep (mode : Mode) (stack : List Frame) (c : UInt8) :
    Option (Scanner × List Lexeme) :=
  some (⟨mode, stack⟩, [.char c])

/-- `stateEndValue`, but for space; after the top-level value nothing may come. -/
def endValue (c : UInt8) : List Frame → Option (Scanner × List Lexeme)
  | [] => none
  | .objectKey :: rest =>
      if c = ascii ':' then keep .beginValue (.objectValue :: rest) c else none
  | .objectValue :: rest =>
      if c = ascii ',' then keep .beginString (.objectKey :: rest) c
      else if c = closeBrace then keep .endValue rest c
      else none
  | .arrayValue :: rest =>
      if c = ascii ',' then keep .beginValue (.arrayValue :: rest) c
      else if c = closeBracket then keep .endValue rest c
      else none

/-- `stateBeginValue`, but for space. -/
def beginValue (c : UInt8) (stack : List Frame) : Option (Scanner × List Lexeme) :=
  if c = openBrace then keep .beginStringOrEmpty (.objectKey :: stack) c
  else if c = openBracket then keep .beginValueOrEmpty (.arrayValue :: stack) c
  else if c = quotes then some (⟨.inString, stack⟩, [.quote])
  else if c = ascii '-' then keep (.number .neg) stack c
  else if c = ascii '0' then keep (.number .zero) stack c
  else if c = ascii 't' then keep (.literal .t) stack c
  else if c = ascii 'f' then keep (.literal .f) stack c
  else if c = ascii 'n' then keep (.literal .n) stack c
  else if isDigit c then keep (.number .int) stack c
  else none

/-- `stateBeginString`, but for space. -/
def beginString (c : UInt8) (stack : List Frame) : Option (Scanner × List Lexeme) :=
  if c = quotes then some (⟨.inString, stack⟩, [.quote]) else none

/-- One byte, and what it says. -/
def step (s : Scanner) (c : UInt8) : Option (Scanner × List Lexeme) :=
  match s.mode with
  | .beginValueOrEmpty =>
      if isSpace c then some (s, [])
      else if c = closeBracket then endValue c s.stack
      else beginValue c s.stack
  | .beginValue => if isSpace c then some (s, []) else beginValue c s.stack
  | .beginStringOrEmpty =>
      if isSpace c then some (s, [])
      else if c = closeBrace then endValue c (.objectValue :: s.stack.tail)
      else beginString c s.stack
  | .beginString => if isSpace c then some (s, []) else beginString c s.stack
  | .endValue => if isSpace c then some (s, []) else endValue c s.stack
  | .inString =>
      if c = quotes then some (⟨.endValue, s.stack⟩, [.quote])
      else if c = backslash then some (⟨.inStringEsc, s.stack⟩, [])
      else if c < 0x20 then none
      else some (s, [.content c])
  | .inStringEsc =>
      if c = ascii 'u' then some (⟨.inStringEscU 0 4, s.stack⟩, [])
      else (unescape c).map fun d => (⟨.inString, s.stack⟩, [.content d])
  | .inStringEscU code left =>
      (hexDigit c).map fun d =>
        if left ≤ 1 then (⟨.inString, s.stack⟩, decodeUnit (code * 16 + d))
        else (⟨.inStringEscU (code * 16 + d) (left - 1), s.stack⟩, [])
  | .number n =>
      match n.next c with
      | some n' => keep (.number n') s.stack c
      | none =>
          if n.ends then
            if isSpace c then some (⟨.endValue, s.stack⟩, []) else endValue c s.stack
          else none
  | .literal l =>
      if c = l.next.1 then
        keep (match l.next.2 with | some l' => .literal l' | none => .endValue) s.stack
          c
      else none

/-- All bytes of a text. -/
def scan : Scanner → Bytes → Option (Scanner × List Lexeme)
  | s, [] => some (s, [])
  | s, c :: text =>
      match step s c with
      | none => none
      | some (s', out) => (scan s' text).map fun r => (r.1, out ++ r.2)

def start : Scanner := ⟨.beginValue, []⟩

/-- The top-level value may end here. -/
def Scanner.done (s : Scanner) : Bool :=
  s.stack = [] && match s.mode with
    | .endValue => true
    | .number n => n.ends
    | _ => false

/-- What a text says, if it is the text of a value. -/
def lexemes (text : Bytes) : Option (List Lexeme) :=
  match scan start text with
  | some (s, out) => if s.done then some out else none
  | none => none

/-- How deep objects and arrays are nested, from a depth on. -/
def nestingFrom (depth : Nat) : List Lexeme → Nat
  | [] => depth
  | .char c :: rest =>
      if c = openBrace || c = openBracket then nestingFrom (depth + 1) rest
      else if c = closeBrace || c = closeBracket then
        max depth (nestingFrom (depth - 1) rest)
      else nestingFrom depth rest
  | _ :: rest => nestingFrom depth rest

/-- `maxNestingDepth` -/
def maxNestingDepth : Nat := 10000

/-- The value of a text that may be nested so deep. -/
def valueWithin (depth : Nat) (text : Bytes) : Option (List Lexeme) :=
  (lexemes text).filter fun value => nestingFrom 0 value ≤ depth

/-! ## Compact texts -/

/-- The digit of a number below sixteen. -/
def hexByte (n : UInt8) : UInt8 :=
  if n < 10 then ascii '0' + n else ascii 'a' + (n - 10)

/-- The bytes that are escaped in a string: `<`, `>` and `&`. -/
def escapesHTML (c : UInt8) : Bool := c = ascii '<' || c = ascii '>' || c = ascii '&'

/-- A byte as `\u00` and two digits. -/
def escapedByte (c : UInt8) : Bytes :=
  [backslash, ascii 'u', ascii '0', ascii '0', hexByte (c / 16), hexByte (c % 16)]

/-- `U+2028` and `U+2029` as `\u202` and a digit; `c` is the last of their bytes. -/
def escapedSeparator (c : UInt8) : Bytes :=
  [backslash, ascii 'u', ascii '2', ascii '0', ascii '2', hexByte (c % 16)]

/-- The text starts with `U+2028` or `U+2029`. -/
def startsWithSeparator : Bytes → Bool
  | a :: b :: c :: _ => a = 0xE2 && b = 0x80 && (c = 0xA8 || c = 0xA9)
  | _ => false

/-- `appendCompact`, of a text that the scanner accepts; the first `skip` bytes have
been written. -/
def compactFrom : Nat → Scanner → Bytes → Bytes
  | _, _, [] => []
  | skip, s, c :: text =>
      match step s c with
      | none => []
      | some (s', _) =>
          match skip with
          | skip + 1 => compactFrom skip s' text
          | 0 =>
              if s.mode = .inString ∧ startsWithSeparator (c :: text) then
                escapedSeparator (text.getD 1 0) ++ compactFrom 2 s' text
              else if s.mode = .inString ∧ escapesHTML c then
                escapedByte c ++ compactFrom 0 s' text
              else if s.mode ≠ .inString ∧ isSpace c then compactFrom 0 s' text
              else c :: compactFrom 0 s' text

/-- The text without space outside its strings and safe to embed in HTML. -/
def compact (text : Bytes) : Bytes := compactFrom 0 start text

/-! ## The value is kept -/

section Compact

variable {s s' t : Scanner} {c : UInt8} {out : List Lexeme} {text : Bytes}

/-- The scanner `t` of the compact text, where that of the text is `s`: it may not know
yet that a number has ended. -/
def InStep (s t : Scanner) : Prop :=
  s = t ∨ s.stack = t.stack ∧ s.mode = .endValue ∧
    ∃ n, t.mode = .number n ∧ n.ends = true

/-- What may follow a value. -/
theorem endValue_byte {stack : List Frame} {r : Scanner × List Lexeme}
    (h : endValue c stack = some r) :
    c = ascii ':' ∨ c = ascii ',' ∨ c = closeBrace ∨ c = closeBracket := by
  cases stack with
  | nil => cases h
  | cons frame rest =>
      cases frame <;> simp only [endValue] at h <;> repeat' split at h
      all_goals first | (cases h; done) | simp_all

/-- No number goes on with that. -/
theorem Number.next_of_endValue {n : Number} {stack : List Frame}
    {r : Scanner × List Lexeme} (h : endValue c stack = some r) : n.next c = none := by
  rcases endValue_byte h with rfl | rfl | rfl | rfl <;> cases n <;> decide

theorem InStep.done (h : InStep s t) (hs : s.done = true) : t.done = true := by
  rcases h with rfl | ⟨hstack, -, n, hn, hends⟩
  · exact hs
  · simp only [Scanner.done, Bool.and_eq_true, decide_eq_true_eq] at hs ⊢
    rw [hn]
    exact ⟨hstack ▸ hs.1, hends⟩

/-- Space outside a string says nothing. -/
theorem InStep.space (h : InStep s t) (hs : step s c = some (s', out))
    (hc : isSpace c = true) (hm : s.mode ≠ .inString) : out = [] ∧ InStep s' t := by
  have hcases : c = 0x20 ∨ c = 0x09 ∨ c = 0x0D ∨ c = 0x0A := by
    simpa [isSpace, or_assoc] using hc
  rcases h with rfl | ⟨hstack, hmode, hnumber⟩
  · cases hmode : s.mode with
    | inString => exact absurd hmode hm
    | inStringEsc =>
        rw [step, hmode] at hs
        rcases hcases with rfl | rfl | rfl | rfl <;> cases hs
    | inStringEscU code left =>
        rw [step, hmode] at hs
        rcases hcases with rfl | rfl | rfl | rfl <;> cases hs
    | literal l =>
        rw [step, hmode] at hs
        rcases hcases with rfl | rfl | rfl | rfl <;> cases l <;> cases hs
    | number n =>
        have hnext : n.next c = none := by
          rcases hcases with rfl | rfl | rfl | rfl <;> cases n <;> decide
        rw [step, hmode] at hs
        simp only [hnext, hc, if_true] at hs
        split at hs
        next hends =>
          cases hs
          exact ⟨rfl, .inr ⟨rfl, rfl, n, hmode, hends⟩⟩
        next => cases hs
    | _ =>
        rw [step, hmode] at hs
        simp only [hc, if_true, Option.some.injEq, Prod.mk.injEq] at hs
        exact ⟨hs.2.symm, .inl hs.1.symm⟩
  · rw [step, hmode] at hs
    simp only [hc, if_true, Option.some.injEq, Prod.mk.injEq] at hs
    rw [← hs.1]
    exact ⟨hs.2.symm, .inr ⟨hstack, hmode, hnumber⟩⟩

/-- Any other byte takes both on. -/
theorem InStep.byte (h : InStep s t) (hs : step s c = some (s', out))
    (hc : s.mode = .inString ∨ isSpace c = false) : ∃ t', step t c = some (t', out) ∧
    InStep s' t' := by
  rcases h with rfl | ⟨hstack, hm, n, hn, hends⟩
  · exact ⟨s', hs, .inl rfl⟩
  · have hspace : isSpace c = false :=
      hc.resolve_left fun he => by rw [hm] at he; cases he
    simp only [step, hm, hspace, Bool.false_eq_true, if_false] at hs
    refine ⟨s', ?_, .inl rfl⟩
    simp only [step, hn, Number.next_of_endValue hs, hends, if_true, hspace,
      Bool.false_eq_true, if_false]
    rw [← hstack]
    exact hs

theorem scan_cons (s : Scanner) (c : UInt8) (text : Bytes) : scan s (c :: text) =
    match step s c with
    | none => none
    | some (s', out) => (scan s' text).map fun r => (r.1, out ++ r.2) := rfl

/-- The bytes that are escaped are contents of a string. -/
theorem step_escapesHTML (stack : List Frame) (hc : escapesHTML c = true) :
    step ⟨.inString, stack⟩ c = some (⟨.inString, stack⟩, [.content c]) := by
  have hcases : c = ascii '<' ∨ c = ascii '>' ∨ c = ascii '&' := by
    simpa [escapesHTML, or_assoc] using hc
  rcases hcases with rfl | rfl | rfl <;> rfl

/-- An escaped byte says the byte. -/
theorem scan_escapedByte (stack : List Frame) (hc : escapesHTML c = true)
    (text : Bytes) :
    scan ⟨.inString, stack⟩ (escapedByte c ++ text) =
      (scan ⟨.inString, stack⟩ text).map fun r => (r.1, .content c :: r.2) := by
  have hcases : c = ascii '<' ∨ c = ascii '>' ∨ c = ascii '&' := by
    simpa [escapesHTML, or_assoc] using hc
  rcases hcases with rfl | rfl | rfl <;>
    · show Option.map _ (Option.map _
        (Option.map _ (Option.map _ (Option.map _ (Option.map _ _))))) = _
      simp only [Option.map_map]
      rfl

/-- An escaped separator says its three bytes. -/
theorem scan_escapedSeparator (stack : List Frame) (hc : c = 0xA8 ∨ c = 0xA9)
    (text : Bytes) :
    scan ⟨.inString, stack⟩ (escapedSeparator c ++ text) =
      (scan ⟨.inString, stack⟩ text).map fun r =>
        (r.1, .content 0xE2 :: .content 0x80 :: .content c :: r.2) := by
  rcases hc with rfl | rfl <;>
    · show Option.map _ (Option.map _
        (Option.map _ (Option.map _ (Option.map _ (Option.map _ _))))) = _
      simp only [Option.map_map]
      rfl

theorem scan_separator (stack : List Frame) (hc : c = 0xA8 ∨ c = 0xA9) (text : Bytes) :
    scan ⟨.inString, stack⟩ (0xE2 :: 0x80 :: c :: text) =
      (scan ⟨.inString, stack⟩ text).map fun r =>
        (r.1, .content 0xE2 :: .content 0x80 :: .content c :: r.2) := by
  rcases hc with rfl | rfl <;>
    · show Option.map _ (Option.map _ (Option.map _ _)) = _
      simp only [Option.map_map]
      rfl

theorem startsWithSeparator_iff : startsWithSeparator text = true ↔
    ∃ d rest, text = 0xE2 :: 0x80 :: d :: rest ∧ (d = 0xA8 ∨ d = 0xA9) := by
  constructor
  · intro h
    unfold startsWithSeparator at h
    split at h
    next a b d rest =>
      simp only [Bool.and_eq_true, Bool.or_eq_true, decide_eq_true_eq] at h
      obtain ⟨⟨rfl, rfl⟩, hd⟩ := h
      exact ⟨d, rest, rfl, hd⟩
    next => cases h
  · rintro ⟨d, rest, rfl, hd⟩
    simpa [startsWithSeparator] using hd

/-- After the separator has been written its bytes are passed over. -/
theorem compactFrom_separator (stack : List Frame) (hc : c = 0xA8 ∨ c = 0xA9)
    (text : Bytes) :
    compactFrom 0 ⟨.inString, stack⟩ (0xE2 :: 0x80 :: c :: text) =
      escapedSeparator c ++ compactFrom 0 ⟨.inString, stack⟩ text := by
  rcases hc with rfl | rfl <;> rfl

/-- The scanner in a string is not behind. -/
theorem InStep.eq_of_inString (h : InStep s t) (hm : s.mode = .inString) : s = t := by
  rcases h with rfl | ⟨-, hend, -⟩
  · rfl
  · rw [hm] at hend
    cases hend

/-- The compact text takes a scanner that is in step to one that is in step. -/
theorem scan_compactFrom (size : Nat) : ∀ (text : Bytes), text.length ≤ size →
    ∀ (s t s' : Scanner) (out : List Lexeme), scan s text = some (s', out) →
      InStep s t →
      ∃ t', scan t (compactFrom 0 s text) = some (t', out) ∧ InStep s' t' := by
  induction size with
  | zero =>
      intro text hlen s t s' out hscan h
      obtain rfl : text = [] := List.eq_nil_of_length_eq_zero (by omega)
      cases hscan
      exact ⟨t, rfl, h⟩
  | succ size ih =>
      intro text hlen s t s' out hscan h
      cases text with
      | nil =>
          cases hscan
          exact ⟨t, rfl, h⟩
      | cons c text =>
          have hlen : text.length ≤ size := by
            rw [List.length_cons] at hlen
            omega
          by_cases hsep : s.mode = .inString ∧ startsWithSeparator (c :: text) = true
          · obtain ⟨hm, hsep⟩ := hsep
            obtain rfl := h.eq_of_inString hm
            obtain ⟨mode, stack⟩ := s
            obtain rfl : mode = .inString := hm
            obtain ⟨d, rest, he, hd⟩ := startsWithSeparator_iff.1 hsep
            rw [he, scan_separator stack hd] at hscan
            obtain ⟨⟨s₁, out₁⟩, hscan₁, heq⟩ := Option.map_eq_some_iff.1 hscan
            cases heq
            have hrest : rest.length ≤ size := by
              have hlength := congrArg List.length he
              simp only [List.length_cons] at hlength
              omega
            obtain ⟨t', hscan', h'⟩ := ih rest hrest _ _ _ _ hscan₁ (.inl rfl)
            refine ⟨t', ?_, h'⟩
            rw [he, compactFrom_separator stack hd, scan_escapedSeparator stack hd,
              hscan']
            rfl
          · rw [scan_cons] at hscan
            cases hstep : step s c with
            | none =>
                rw [hstep] at hscan
                cases hscan
            | some r =>
                obtain ⟨s₁, out₁⟩ := r
                rw [hstep] at hscan
                obtain ⟨⟨s₂, out₂⟩, hscan₂, heq⟩ := Option.map_eq_some_iff.1 hscan
                cases heq
                simp only [compactFrom, hstep, if_neg hsep]
                split
                next hhtml =>
                  obtain ⟨hm, hhtml⟩ := hhtml
                  obtain rfl := h.eq_of_inString hm
                  obtain ⟨mode, stack⟩ := s
                  obtain rfl : mode = .inString := hm
                  rw [step_escapesHTML stack hhtml] at hstep
                  cases hstep
                  obtain ⟨t', hscan', h'⟩ := ih text hlen _ _ _ _ hscan₂ (.inl rfl)
                  refine ⟨t', ?_, h'⟩
                  rw [scan_escapedByte stack hhtml, hscan']
                  rfl
                next =>
                  split
                  next hspace =>
                    obtain ⟨rfl, h₁⟩ := h.space hstep hspace.2 hspace.1
                    exact ih text hlen _ _ _ _ hscan₂ h₁
                  next hbyte =>
                    have hbyte : s.mode = .inString ∨ isSpace c = false := by
                      by_cases hm : s.mode = .inString
                      · exact .inl hm
                      · exact .inr (by simpa [hm] using hbyte)
                    obtain ⟨t₁, ht₁, h₁⟩ := h.byte hstep hbyte
                    obtain ⟨t', hscan', h'⟩ := ih text hlen _ _ _ _ hscan₂ h₁
                    refine ⟨t', ?_, h'⟩
                    rw [scan_cons, ht₁]
                    simp only [hscan', Option.map_some]

/-- **Embedding keeps the value.** -/
theorem lexemes_compact {value : List Lexeme} (h : lexemes text = some value) :
    lexemes (compact text) = some value := by
  unfold lexemes at h
  cases hscan : scan start text with
  | none =>
      rw [hscan] at h
      cases h
  | some r =>
      obtain ⟨s, out⟩ := r
      rw [hscan] at h
      dsimp only at h
      split at h
      next hdone =>
        cases h
        obtain ⟨t, ht, hstep⟩ :=
          scan_compactFrom text.length text (Nat.le_refl _) _ _ _ _ hscan (.inl rfl)
        unfold lexemes compact
        rw [ht]
        exact if_pos (hstep.done hdone)
      next => cases h

end Compact

end CallsPlugin.Verified.JsonText
