import Mathlib.Tactic.SplitIfs
import CallsPlugin.Ports.EnvOverrides

/-!
# Addresses (`net.ParseIP`)

Whether a string is an IP address.  An address with a zone is none, as the percent sign
is no character of an address.
-/

namespace CallsPlugin.Ports.ParseIP

open CallsPlugin.Ports.Environment

/-- `parseIPv4Fields` after `pos` fields, in a field of `digLen` digits with the value
`val`. -/
def ipv4Fields (pos digLen val : Nat) : List Char → Bool
  | [] => pos = 3
  | c :: rest =>
      if c.isDigit then
        if digLen = 1 ∧ val = 0 then false
        else if 255 < 10 * val + (c.toNat - '0'.toNat) then false
        else ipv4Fields pos (digLen + 1) (10 * val + (c.toNat - '0'.toNat)) rest
      else if c = '.' then
        if digLen = 0 ∨ rest = [] then false
        else if pos = 3 then false
        else ipv4Fields (pos + 1) 0 0 rest
      else false

/-- A digit of a group. -/
def isHex (c : Char) : Bool :=
  c.isDigit || ('a' ≤ c && c ≤ 'f') || ('A' ≤ c && c ≤ 'F')

/-- The address is complete: an ellipsis stands for one group at least. -/
def complete (left : Nat) (ellipsis : Bool) : Bool :=
  if 0 < left then ellipsis else !ellipsis

/-- The loop of `parseIPv6`, where `left` groups are still to come. -/
def ipv6Groups : Nat → Bool → List Char → Bool
  | 0, ellipsis, s => s.isEmpty && complete 0 ellipsis
  | left + 1, ellipsis, s =>
      if s.takeWhile isHex = [] ∨ 4 < (s.takeWhile isHex).length then false
      else
        match s.dropWhile isHex with
        | [] => complete left ellipsis
        | '.' :: _ =>
            -- the last two groups may be written as an IPv4 address
            if (¬ ellipsis ∧ left + 1 ≠ 2) ∨ left + 1 < 2 then false
            else ipv4Fields 0 0 0 s && complete (left - 1) ellipsis
        | [':'] => false
        | [':', ':'] => !ellipsis && complete left true
        | ':' :: ':' :: rest => if ellipsis then false else ipv6Groups left true rest
        | ':' :: rest => ipv6Groups left ellipsis rest
        | _ => false

/-- `parseIPv6` -/
def ipv6 : List Char → Bool
  | [':', ':'] => true
  | ':' :: ':' :: rest => ipv6Groups 8 true rest
  | s => ipv6Groups 8 false s

/-- `net.ParseIP(s) != nil` -/
def parseIP (s : String) : Bool :=
  match s.toList.find? fun c => c = '.' ∨ c = ':' ∨ c = '%' with
  | some '.' => ipv4Fields 0 0 0 s.toList
  | some ':' => ipv6 s.toList
  | _ => false

example : ["127.0.0.1", "::1", "::ffff:192.0.2.1", "2001:db8::68", "::"].all parseIP =
    true := by
  decide

example : ["", "1.2.3", "01.2.3.4", "1::2::3", "fe80::1%eth0", ":::", " 127.0.0.1"].any
    parseIP =
    false := by
  decide

/-! ## No spaces -/

theorem isSpace_of_printable {c : Char} (h : 33 ≤ c.toNat) (h' : c.toNat ≤ 126) :
    isSpace c = false := by
  unfold isSpace
  simp only [List.mem_cons, List.not_mem_nil, or_false, Bool.or_eq_false_iff,
    Bool.and_eq_false_iff, decide_eq_false_iff_not]
  omega

theorem isSpace_of_isDigit {c : Char} (h : c.isDigit = true) : isSpace c = false := by
  simp only [Char.isDigit, Bool.and_eq_true, decide_eq_true_eq] at h
  obtain ⟨hlow, hhigh⟩ := h
  exact isSpace_of_printable (le_trans (by decide) hlow) (le_trans hhigh (by decide))

theorem isSpace_of_isHex {c : Char} (h : isHex c = true) : isSpace c = false := by
  unfold isHex at h
  rcases Bool.or_eq_true_iff.1 h with h | h
  · rcases Bool.or_eq_true_iff.1 h with h | h
    · exact isSpace_of_isDigit h
    · simp only [Bool.and_eq_true, decide_eq_true_eq] at h
      exact isSpace_of_printable (le_trans (by decide) h.1) (le_trans h.2 (by decide))
  · simp only [Bool.and_eq_true, decide_eq_true_eq] at h
    exact isSpace_of_printable (le_trans (by decide) h.1) (le_trans h.2 (by decide))

theorem isSpace_colon : isSpace ':' = false :=
  isSpace_of_printable (by decide) (by decide)

theorem colons_noSpace : ∀ c ∈ [':', ':'], isSpace c = false :=
  List.forall_mem_cons.2 ⟨isSpace_colon, List.forall_mem_singleton.2 isSpace_colon⟩

theorem ipv4Fields_noSpace {pos digLen val : Nat} {l : List Char}
    (h : ipv4Fields pos digLen val l = true) : ∀ c ∈ l, isSpace c = false := by
  induction l generalizing pos digLen val with
  | nil => exact fun c hc => absurd hc List.not_mem_nil
  | cons a l ih =>
      have hparts : isSpace a = false ∧
          ∃ pos digLen val, ipv4Fields pos digLen val l = true := by
        unfold ipv4Fields at h
        split at h
        next hdigit =>
          split_ifs at h
          exact ⟨isSpace_of_isDigit hdigit, _, _, _, h⟩
        next =>
          split at h
          next hdot =>
            split_ifs at h
            subst hdot
            exact ⟨by decide, _, _, _, h⟩
          next => cases h
      obtain ⟨ha, _, _, _, hl⟩ := hparts
      intro c hc
      rcases List.mem_cons.1 hc with rfl | hc
      · exact ha
      · exact ih hl c hc

theorem ipv6Groups_noSpace {left : Nat} {ellipsis : Bool} {l : List Char}
    (h : ipv6Groups left ellipsis l = true) : ∀ c ∈ l, isSpace c = false := by
  induction left generalizing ellipsis l with
  | zero =>
      unfold ipv6Groups at h
      obtain ⟨hnil, -⟩ := Bool.and_eq_true_iff.1 h
      rw [List.isEmpty_iff.1 hnil]
      exact fun c hc => absurd hc List.not_mem_nil
  | succ left ih =>
      have hrest : ∀ c ∈ l.dropWhile isHex, isSpace c = false := by
        unfold ipv6Groups at h
        split at h
        next => cases h
        next =>
          split at h
          next hnil =>
            rw [hnil]
            exact fun c hc => absurd hc List.not_mem_nil
          next rest hdot =>
            split at h
            next => cases h
            next =>
              obtain ⟨hv4, -⟩ := Bool.and_eq_true_iff.1 h
              exact fun c hc => ipv4Fields_noSpace hv4 c
                ((List.dropWhile_sublist _).mem hc)
          next => cases h
          next hcolons =>
            rw [hcolons]
            exact colons_noSpace
          next rest _ hcolons =>
            split at h
            next => cases h
            next =>
              rw [hcolons]
              intro c hc
              simp only [List.mem_cons] at hc
              rcases hc with rfl | rfl | hc
              · exact isSpace_colon
              · exact isSpace_colon
              · exact ih h c hc
          next rest _ _ hcolon =>
            rw [hcolon]
            intro c hc
            rcases List.mem_cons.1 hc with rfl | hc
            · exact isSpace_colon
            · exact ih h c hc
          next => cases h
      intro c hc
      rw [← List.takeWhile_append_dropWhile (p := isHex) (l := l)] at hc
      rcases List.mem_append.1 hc with hc | hc
      · exact isSpace_of_isHex (List.all_eq_true.1 List.all_takeWhile c hc)
      · exact hrest c hc

/-- An address has no spaces around it. -/
theorem trimSpace_of_parseIP {s : String} (h : parseIP s = true) : trimSpace s = s := by
  have hnone : ∀ c ∈ s.toList, isSpace c = false := by
    unfold parseIP at h
    split at h
    next => exact ipv4Fields_noSpace h
    next =>
      unfold ipv6 at h
      split at h
      next hcolons =>
        rw [hcolons]
        exact colons_noSpace
      next rest _ hcolons =>
        rw [hcolons]
        intro c hc
        simp only [List.mem_cons] at hc
        rcases hc with rfl | rfl | hc
        · exact isSpace_colon
        · exact isSpace_colon
        · exact ipv6Groups_noSpace h c hc
      next => exact ipv6Groups_noSpace h
    next => cases h
  have hdrop : ∀ l : List Char, (∀ c ∈ l, isSpace c = false) →
      l.dropWhile isSpace = l := by
    intro l hl
    cases l with
    | nil => rfl
    | cons a l => simp [hl a List.mem_cons_self]
  unfold trimSpace
  rw [hdrop _ hnone, hdrop _ fun c hc => hnone c (List.mem_reverse.1 hc),
    List.reverse_reverse, String.ofList_toList]

end CallsPlugin.Ports.ParseIP
