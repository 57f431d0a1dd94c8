import Bibliography.Proofs.Export.Values
import Bibliography.Proofs.Unicode.Ascii
import Mathlib.Data.List.Basic

/-! # The target of a link

An escaped link still points to where the link does. Taken off again, the backslashes leave what is
shown: the link itself, or visible ASCII characters only, where every other character is given by
the numbers of its bytes. A server reads bytes given by number as if they stood there, and what it
reads is what it would read from the link.

* `unescape` takes off the backslashes, `guarded` puts them on;
* `percentDecode` reads bytes that are given by number;
* `percentDecode_numbered`: numbering all bytes that are not visible changes nothing that is read,
  also where the link holds numbers of its own, whole or cut short.
-/

namespace Bibliography.Link
set_option autoImplicit false
open Text Latex

/-! ## Backslashes -/

/-- A character that would have a meaning where a link stands. -/
def isSpecial (c : Char) : Bool :=
  c = '#' || c = '\\' || c = '_' || c = '%' || c = '&' || c = '{' || c = '}'

/-- The text with a backslash of its own before each special character, and no others. -/
def guarded (s : Text) : Text := s.flatMap fun c => if isSpecial c then ['\\', c] else [c]

/-- The text without the backslashes that escape the character behind them. -/
def unescape : Text → Text
  | c :: d :: s => if c = '\\' then d :: unescape s else c :: unescape (d :: s)
  | s => s

theorem unescape_backslash (c : Char) (s : Text) : unescape ('\\' :: c :: s) = c :: unescape s := by
  rw [unescape, if_pos rfl]

theorem unescape_cons {c : Char} (h : c ≠ '\\') (s : Text) :
    unescape (c :: s) = c :: unescape s := by
  cases s with
  | nil => rfl
  | cons d s => rw [unescape, if_neg h]

/-- The backslashes that were put on are taken off, and no others. -/
theorem unescape_guarded (s : Text) : unescape (guarded s) = s := by
  induction s with
  | nil => rfl
  | cons c s ih =>
    unfold guarded at ih ⊢
    rw [List.flatMap_cons]
    cases hspecial : isSpecial c with
    | true => exact (unescape_backslash c _).trans (congrArg _ ih)
    | false =>
      have hslash : c ≠ '\\' := by
        rintro rfl
        exact absurd hspecial (by decide)
      exact (unescape_cons hslash _).trans (congrArg _ ih)

theorem guarded_eq_self {s : Text} (h : ∀ c ∈ s, isSpecial c = false) : guarded s = s := by
  induction s with
  | nil => rfl
  | cons c s ih =>
    rw [List.forall_mem_cons] at h
    have hrest : guarded (c :: s) = [c] ++ guarded s := by simp [guarded, h.1]
    rw [hrest, ih h.2, List.singleton_append]

/-! ## What is shown -/

/-- A byte by number. -/
def number (b : UInt8) : Text := '%' :: hex 2 b.toNat

/-- A character as it is shown: where the output must be ASCII and it is not visible, by the numbers
of its bytes. -/
def shownChar (mode : Mode) (c : Char) : Text :=
  if isVisible c || mode = .unicode then [c] else (String.utf8EncodeChar c).flatMap number

/-- The characters of a link as they are shown. -/
def shown (mode : Mode) (s : Text) : Text := s.flatMap (shownChar mode)

theorem escaped_contains (c : Char) : escaped.contains c = isSpecial c := by
  have hlisted : escaped = ['#', '\\', '_', '%', '&', '{', '}'] := by decide
  rw [hlisted, Bool.eq_iff_iff]
  simp [isSpecial, or_assoc]

theorem isVisible_of_isSpecial {c : Char} (h : isSpecial c = true) : isVisible c = true := by
  simp only [isSpecial, Bool.or_eq_true, decide_eq_true_eq] at h
  rcases h with (((((rfl | rfl) | rfl) | rfl) | rfl) | rfl) | rfl <;> rfl

theorem digit_hex {n : Nat} {c : Char} (h : c ∈ hex 2 n) :
    isSpecial c = false ∧ isVisible c = true := by
  obtain ⟨d, rfl⟩ := exists_digitChar_of_mem_hex h
  exact forall_digitChar (p := fun c => isSpecial c = false ∧ isVisible c = true) (by decide)
    (by decide) d

theorem guarded_number (b : UInt8) : guarded (number b) = byNumber b := by
  have hdigits := guarded_eq_self fun c (hc : c ∈ hex 2 b.toNat) => (digit_hex hc).1
  have hform : guarded (number b) = ['\\', '%'] ++ guarded (hex 2 b.toNat) := rfl
  rw [hform, hdigits]
  rfl

theorem guarded_shownChar (mode : Mode) (c : Char) :
    guarded (shownChar mode c) = escapeChar mode c := by
  rw [escapeChar, shownChar, escaped_contains]
  cases hspecial : isSpecial c with
  | true =>
    rw [isVisible_of_isSpecial hspecial, Bool.true_or, if_pos rfl, if_pos rfl]
    simp [guarded, hspecial]
  | false =>
    rw [if_neg Bool.false_ne_true]
    split
    · simp [guarded, hspecial]
    · rw [guarded, List.flatMap_assoc]
      exact congrArg (List.flatMap · _) (funext guarded_number)

/-- Escaping is showing, and then guarding what is shown. -/
theorem escape_eq_guarded (mode : Mode) (s : Text) : escape mode s = guarded (shown mode s) := by
  rw [guarded, shown, List.flatMap_assoc]
  exact congrArg (List.flatMap · s) (funext fun c => (guarded_shownChar mode c).symm)

theorem unescape_escape (mode : Mode) (s : Text) : unescape (escape mode s) = shown mode s := by
  rw [escape_eq_guarded, unescape_guarded]

theorem shown_unicode (s : Text) : shown .unicode s = s := by
  have hchar : shownChar .unicode = fun c => [c] := funext fun c => by simp [shownChar]
  rw [shown, hchar, List.flatMap_singleton']

theorem isVisible_of_mem_shown {s : Text} {c : Char} (h : c ∈ shown .ascii s) :
    isVisible c = true := by
  obtain ⟨d, -, hc⟩ := List.mem_flatMap.1 h
  rw [shownChar] at hc
  split at hc
  · next hvisible =>
    rw [List.mem_singleton.1 hc]
    simpa using hvisible
  · obtain ⟨b, -, hb⟩ := List.mem_flatMap.1 hc
    rcases List.mem_cons.1 hb with rfl | hdigit
    · rfl
    · exact (digit_hex hdigit).2

/-! ## Bytes -/

/-- The bytes of a text in UTF-8. -/
def bytes (s : Text) : List UInt8 := s.flatMap String.utf8EncodeChar

/-- The value of the hexadecimal digit a byte stands for. -/
def hexDigit? (b : UInt8) : Option Nat := hexDigitValue? (Char.ofNat b.toNat)

/-- The byte two hexadecimal digits give, and what follows them. -/
def twoDigits? : List UInt8 → Option (UInt8 × List UInt8)
  | high :: low :: rest =>
    (hexDigit? high).bind fun h => (hexDigit? low).map fun l => (UInt8.ofNat (16 * h + l), rest)
  | _ => none

theorem length_of_twoDigits? {bs rest : List UInt8} {b : UInt8}
    (h : twoDigits? bs = some (b, rest)) : rest.length < bs.length := by
  unfold twoDigits? at h
  split at h
  · obtain ⟨x, -, hx⟩ := Option.bind_eq_some_iff.1 h
    obtain ⟨y, -, hy⟩ := Option.map_eq_some_iff.1 hx
    rw [← (Prod.mk.inj hy).2]
    simp only [List.length_cons]
    omega
  · simp at h

/-- The byte of a percent sign. -/
def percent : UInt8 := 0x25

/-- A byte given by number, which begins with a percent sign, and what follows it. -/
def numbered? (b : UInt8) (bs : List UInt8) : Option (UInt8 × List UInt8) :=
  if b = percent then twoDigits? bs else none

theorem length_of_numbered? {b x : UInt8} {bs rest : List UInt8}
    (h : numbered? b bs = some (x, rest)) : rest.length < (b :: bs).length := by
  unfold numbered? at h
  split at h
  · have := length_of_twoDigits? h
    simp only [List.length_cons]
    omega
  · cases h

/-- The bytes with those read that are given by number; everything else stays. -/
def percentDecode : List UInt8 → List UInt8
  | [] => []
  | b :: bs =>
    match _h : numbered? b bs with
    | some (x, rest) => x :: percentDecode rest
    | none => b :: percentDecode bs
termination_by bs => bs.length
decreasing_by
  · exact length_of_numbered? _h
  · simp

theorem percentDecode_of_some {b x : UInt8} {bs rest : List UInt8}
    (h : numbered? b bs = some (x, rest)) : percentDecode (b :: bs) = x :: percentDecode rest := by
  rw [percentDecode]
  split
  · next heq =>
    rw [h] at heq
    cases heq
    rfl
  · next heq =>
    rw [h] at heq
    cases heq

theorem percentDecode_of_none {b : UInt8} {bs : List UInt8} (h : numbered? b bs = none) :
    percentDecode (b :: bs) = b :: percentDecode bs := by
  rw [percentDecode]
  split
  · next heq =>
    rw [h] at heq
    cases heq
  · rfl

/-! ## Bytes given by number -/

theorem utf8EncodeChar_ascii {c : Char} (h : c.toNat < 0x80) :
    String.utf8EncodeChar c = [UInt8.ofNat c.toNat] := by
  rw [String.utf8EncodeChar.eq_def]
  exact if_pos (by show c.toNat ≤ 127; omega)

/-- A number has two digits. -/
theorem hex_two {n : Nat} (h : n < 256) :
    hex 2 n = [Nat.digitChar (n / 16), Nat.digitChar (n % 16)] := by
  by_cases hsmall : n < 16
  · rw [hex, Nat.toDigits_of_lt_base hsmall, Nat.div_eq_of_lt hsmall, Nat.mod_eq_of_lt hsmall]
    rfl
  · have hfirst : n / 16 < 16 := by omega
    rw [hex, Nat.toDigits_of_base_le (by decide) (by omega), Nat.toDigits_of_lt_base hfirst]
    rfl

/-- A digit of a number, as a byte. -/
def digitByte (d : Nat) : UInt8 := UInt8.ofNat (Nat.digitChar d).toNat

theorem hexDigit?_digitByte {d : Nat} (h : d < 16) : hexDigit? (digitByte d) = some d := by
  have hdigits : ∀ d < 16, hexDigit? (digitByte d) = some d := by decide
  exact hdigits d h

theorem bytes_number (b : UInt8) :
    bytes (number b) = [percent, digitByte (b.toNat / 16), digitByte (b.toNat % 16)] := by
  have hascii : ∀ d, (Nat.digitChar d).toNat < 0x80 :=
    forall_digitChar (p := fun c => c.toNat < 0x80) (by decide) (by decide)
  have hsign : String.utf8EncodeChar '%' = [percent] := by decide
  have hsingle (d : Nat) : String.utf8EncodeChar (Nat.digitChar d) = [digitByte d] :=
    utf8EncodeChar_ascii (hascii d)
  rw [number, hex_two b.toNat_lt]
  simp only [bytes, List.flatMap_cons, List.flatMap_nil, hsign, hsingle]
  rfl

theorem twoDigits?_digits (b : UInt8) (rest : List UInt8) :
    twoDigits? (digitByte (b.toNat / 16) :: digitByte (b.toNat % 16) :: rest) = some (b, rest) := by
  have hbound := b.toNat_lt
  have hhigh : b.toNat / 16 < 16 := by omega
  have hlow : b.toNat % 16 < 16 := by omega
  have hvalue : 16 * (b.toNat / 16) + b.toNat % 16 = b.toNat := by omega
  rw [twoDigits?, hexDigit?_digitByte hhigh, hexDigit?_digitByte hlow]
  simp only [Option.bind_some, Option.map_some, hvalue, UInt8.ofNat_toNat]

/-! ## Numbering what is not visible -/

/-- A byte of a visible character. -/
def isVisibleByte (b : UInt8) : Bool := 0x21 ≤ b.toNat && b.toNat ≤ 0x7E

/-- A byte as it is shown in ASCII. -/
def shownByte (b : UInt8) : List UInt8 := if isVisibleByte b then [b] else bytes (number b)

theorem toNat_of_hexDigitValue? {c : Char} {d : Nat} (h : hexDigitValue? c = some d) :
    0x30 ≤ c.toNat ∧ c.toNat ≤ 0x66 := by
  have hdigit : c.isDigit = true ↔ 0x30 ≤ c.toNat ∧ c.toNat ≤ 0x39 := Char.isDigit_iff_toNat
  have hsmall : ('a' ≤ c ∧ c ≤ 'f') ↔ 0x61 ≤ c.toNat ∧ c.toNat ≤ 0x66 := Iff.rfl
  have hcapital : ('A' ≤ c ∧ c ≤ 'F') ↔ 0x41 ≤ c.toNat ∧ c.toNat ≤ 0x46 := Iff.rfl
  simp only [hexDigitValue?, hdigit, Bool.and_eq_true, decide_eq_true_eq, hsmall, hcapital] at h
  split at h
  · omega
  · split at h
    · omega
    · split at h
      · omega
      · cases h

theorem isVisibleByte_of_hexDigit? {b : UInt8} {d : Nat} (h : hexDigit? b = some d) :
    isVisibleByte b = true := by
  have hbounds := toNat_of_hexDigitValue? h
  simp only [isVisibleByte, Bool.and_eq_true, decide_eq_true_eq]
  rcases Unicode.toNat_ofNat_cases b.toNat with hcode | hzero
  · omega
  · omega

/-- A hexadecimal digit is shown as it is; any other byte is shown as something that begins with no
such digit. -/
theorem shownByte_cases (b : UInt8) :
    shownByte b = [b] ∨ (hexDigit? b = none ∧ ∃ more, shownByte b = percent :: more) := by
  rw [shownByte]
  cases hvisible : isVisibleByte b with
  | true => exact .inl rfl
  | false =>
    refine .inr ⟨?_, _, bytes_number b⟩
    cases hdigit : hexDigit? b with
    | none => rfl
    | some d =>
      rw [isVisibleByte_of_hexDigit? hdigit] at hvisible
      cases hvisible

theorem twoDigits?_of_first {b : UInt8} (h : hexDigit? b = none) (bs : List UInt8) :
    twoDigits? (b :: bs) = none := by
  cases bs with
  | nil => rfl
  | cons low bs => rw [twoDigits?, h, Option.bind_none]

theorem twoDigits?_of_second {low : UInt8} (h : hexDigit? low = none) (high : UInt8)
    (bs : List UInt8) : twoDigits? (high :: low :: bs) = none := by
  rw [twoDigits?, h]
  cases hexDigit? high with
  | none => rfl
  | some d => rfl

theorem hexDigit?_percent : hexDigit? percent = none := by decide

/-- Showing the bytes makes no number of what is none: a byte that is shown by number begins with a
percent sign, which is no digit. -/
theorem twoDigits?_shown (bs : List UInt8) :
    twoDigits? (bs.flatMap shownByte) =
      (twoDigits? bs).map fun found => (found.1, found.2.flatMap shownByte) := by
  cases bs with
  | nil => rfl
  | cons high bs =>
    rw [List.flatMap_cons]
    rcases shownByte_cases high with hhigh | ⟨hnone, more, hmore⟩
    · rw [hhigh, List.singleton_append]
      cases bs with
      | nil => rfl
      | cons low bs =>
        rw [List.flatMap_cons]
        rcases shownByte_cases low with hlow | ⟨hnone, more, hmore⟩
        · rw [hlow, List.singleton_append, twoDigits?, twoDigits?]
          cases hexDigit? high with
          | none => rfl
          | some h =>
            cases hexDigit? low with
            | none => rfl
            | some l => rfl
        · rw [hmore, List.cons_append, twoDigits?_of_second hexDigit?_percent,
            twoDigits?_of_second hnone]
          rfl
    · rw [hmore, List.cons_append, twoDigits?_of_first hexDigit?_percent,
        twoDigits?_of_first hnone]
      rfl

theorem numbered?_shown (b : UInt8) (bs : List UInt8) :
    numbered? b (bs.flatMap shownByte) =
      (numbered? b bs).map fun found => (found.1, found.2.flatMap shownByte) := by
  rw [numbered?, numbered?]
  split
  · exact twoDigits?_shown bs
  · rfl

theorem shownByte_of_numbered? {b : UInt8} {bs : List UInt8} (h : (numbered? b bs).isSome = true) :
    shownByte b = [b] := by
  unfold numbered? at h
  split at h
  · next hb =>
    rw [hb]
    rfl
  · cases h

/-- Numbering the bytes that are not visible changes nothing that is read. -/
theorem percentDecode_numbered (bs : List UInt8) :
    percentDecode (bs.flatMap shownByte) = percentDecode bs := by
  fun_induction percentDecode bs with
  | case1 => exact percentDecode.eq_1
  | case2 b bs x rest hfound ih =>
    -- a number in the link itself stays as it is
    have hshown := numbered?_shown b bs
    rw [hfound, Option.map_some] at hshown
    rw [List.flatMap_cons, shownByte_of_numbered? (by rw [hfound]; rfl), ← ih]
    exact percentDecode_of_some hshown
  | case3 b bs hnone ih =>
    rw [List.flatMap_cons, shownByte, ← ih]
    split
    · have hshown := numbered?_shown b bs
      rw [hnone] at hshown
      exact percentDecode_of_none hshown
    · rw [bytes_number]
      exact percentDecode_of_some (twoDigits?_digits b _)

/-! ## The bytes of what is shown -/

theorem le_of_mem_utf8EncodeChar {c : Char} {b : UInt8} (hc : 0x80 ≤ c.toNat)
    (h : b ∈ String.utf8EncodeChar c) : 0x80 ≤ b.toNat := by
  have hcode : c.val.toNat = c.toNat := rfl
  simp only [String.utf8EncodeChar, hcode] at h
  split at h
  · omega
  · split at h
    · simp only [List.mem_cons, List.not_mem_nil, or_false] at h
      rcases h with rfl | rfl <;> rw [UInt8.toNat_ofNat'] <;> omega
    · split at h
      · simp only [List.mem_cons, List.not_mem_nil, or_false] at h
        rcases h with rfl | rfl | rfl <;> rw [UInt8.toNat_ofNat'] <;> omega
      · simp only [List.mem_cons, List.not_mem_nil, or_false] at h
        rcases h with rfl | rfl | rfl | rfl <;> rw [UInt8.toNat_ofNat'] <;> omega

/-- The bytes of a character are visible if it is. -/
theorem isVisibleByte_of_mem {c : Char} {b : UInt8} (h : b ∈ String.utf8EncodeChar c) :
    isVisibleByte b = isVisible c := by
  by_cases hc : c.toNat < 0x80
  · rw [utf8EncodeChar_ascii hc, List.mem_singleton] at h
    have hcode : b.toNat = c.toNat := by rw [h, UInt8.toNat_ofNat']; omega
    rw [isVisibleByte, isVisible, hcode]
  · have hb := le_of_mem_utf8EncodeChar (by omega) h
    have hbyte : isVisibleByte b = false := by
      rw [isVisibleByte, Bool.and_eq_false_iff, decide_eq_false_iff_not, decide_eq_false_iff_not]
      omega
    have hchar : isVisible c = false := by
      rw [isVisible, Bool.and_eq_false_iff, decide_eq_false_iff_not, decide_eq_false_iff_not]
      omega
    rw [hbyte, hchar]

theorem bytes_shownChar (c : Char) :
    bytes (shownChar .ascii c) = (String.utf8EncodeChar c).flatMap shownByte := by
  rw [shownChar]
  cases hvisible : isVisible c with
  | true =>
    have hkept : ∀ b ∈ String.utf8EncodeChar c, shownByte b = [b] := fun b hb => by
      rw [shownByte, isVisibleByte_of_mem hb, hvisible, if_pos rfl]
    rw [Bool.true_or, if_pos rfl, List.flatMap_congr hkept, List.flatMap_singleton']
    exact List.append_nil _
  | false =>
    have hnumbered : ∀ b ∈ String.utf8EncodeChar c, shownByte b = bytes (number b) := fun b hb => by
      rw [shownByte, isVisibleByte_of_mem hb, hvisible, if_neg Bool.false_ne_true]
    rw [Bool.false_or, if_neg (by decide), List.flatMap_congr hnumbered, bytes, List.flatMap_assoc]
    rfl

/-- In bytes, a link is shown byte by byte. -/
theorem bytes_shown (s : Text) : bytes (shown .ascii s) = (bytes s).flatMap shownByte := by
  rw [bytes, shown, List.flatMap_assoc, bytes, List.flatMap_assoc]
  exact congrArg (List.flatMap · s) (funext bytes_shownChar)

/-- An escaped link keeps its target. -/
theorem escape_target (s : Text) :
    unescape (escape .unicode s) = s ∧
      (∀ c ∈ unescape (escape .ascii s), 0x21 ≤ c.toNat ∧ c.toNat ≤ 0x7E) ∧
      percentDecode (bytes (unescape (escape .ascii s))) = percentDecode (bytes s) ∧
      ∀ mode, escape mode s = guarded (unescape (escape mode s)) ∧
        BraceBalanced (escape mode s) := by
  refine ⟨?_, ?_, ?_, fun mode => ⟨?_, balanced_escape mode s⟩⟩
  · rw [unescape_escape, shown_unicode]
  · intro c hc
    rw [unescape_escape] at hc
    simpa [isVisible] using isVisible_of_mem_shown hc
  · rw [unescape_escape, bytes_shown, percentDecode_numbered]
  · rw [unescape_escape, escape_eq_guarded]

/-- A percent sign of the link stays one, before a character that is given by number. -/
example : unescape (escape .ascii "%4é_") = "%4%c3%a9_".toList := by decide

end Bibliography.Link
