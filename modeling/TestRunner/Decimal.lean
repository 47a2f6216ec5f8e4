import Mathlib.Algebra.Ring.Nat
import Mathlib.Data.List.Basic

/-! Decimal numbers in a text: printing with a minimal width, reading from the front, and the order
of texts of one width. -/
namespace TestRunner.Decimal

def printInt (i : Int) : List Char :=
  if i < 0 then '-' :: Nat.toDigits 10 i.natAbs else Nat.toDigits 10 i.natAbs

/-- Zeros fill a text on the left up to a width, before the sign if it has one. -/
def pad (width : Nat) (text : List Char) : List Char :=
  List.replicate (width - text.length) '0' ++ text

def isNumeral (c : Char) : Bool := c.isDigit || c = '-'

def value (text : List Char) : Int :=
  if '-' ∈ text then -(Nat.ofDigitChars 10 (text.filter Char.isDigit) 0)
  else Nat.ofDigitChars 10 (text.filter Char.isDigit) 0

/-- The number at the front of a text, and what follows it. -/
def readInt (text : List Char) : Option (Int × List Char) :=
  let token := text.takeWhile isNumeral
  if token = [] then none else some (value token, text.dropWhile isNumeral)

def expect : List Char → List Char → Option (List Char)
  | [], text => some text
  | _ :: _, [] => none
  | e :: es, c :: text => if e = c then expect es text else none

/-- No number goes on at the front of the text. -/
def Stops (text : List Char) : Prop := ∀ c ∈ text.head?, isNumeral c = false

theorem isDigit_of_mem {n : Nat} {c : Char} (inside : c ∈ Nat.toDigits 10 n) : c.isDigit = true :=
  Nat.isDigit_of_mem_toDigits (by decide) (by decide) inside

theorem minus_not_mem (n : Nat) : '-' ∉ Nat.toDigits 10 n := by
  intro inside
  exact absurd (isDigit_of_mem inside) (by decide)

theorem filter_printInt (i : Int) : (printInt i).filter Char.isDigit = Nat.toDigits 10 i.natAbs := by
  have digits : (Nat.toDigits 10 i.natAbs).filter Char.isDigit = Nat.toDigits 10 i.natAbs :=
    List.filter_eq_self.mpr fun c inside => isDigit_of_mem inside
  unfold printInt
  split
  · rw [List.filter_cons_of_neg (by decide), digits]
  · exact digits

theorem minus_mem_printInt (i : Int) : '-' ∈ printInt i ↔ i < 0 := by
  unfold printInt
  split
  · rename_i negative
    exact iff_of_true (List.mem_cons_self ..) negative
  · rename_i nonneg
    exact iff_of_false (minus_not_mem _) nonneg

/-- A printed number has its value, whatever its width. -/
theorem value_pad_printInt (width : Nat) (i : Int) : value (pad width (printInt i)) = i := by
  have digits : (pad width (printInt i)).filter Char.isDigit =
      List.replicate (width - (printInt i).length) '0' ++ Nat.toDigits 10 i.natAbs := by
    rw [pad, List.filter_append, filter_printInt, List.filter_replicate_of_pos (by decide)]
  have number : Nat.ofDigitChars 10 ((pad width (printInt i)).filter Char.isDigit) 0 = i.natAbs := by
    rw [digits, Nat.ofDigitChars_append, Nat.ofDigitChars_replicate_zero, Nat.mul_zero]
    exact Nat.ofDigitChars_ten_toDigits
  have sign : '-' ∈ pad width (printInt i) ↔ i < 0 := by
    rw [pad, List.mem_append, minus_mem_printInt]
    simp
  unfold value
  rw [number]
  by_cases negative : i < 0
  · rw [if_pos (sign.mpr negative)]
    omega
  · rw [if_neg (mt sign.mp negative)]
    omega

theorem pad_zero (text : List Char) : pad 0 text = text := by
  simp [pad]

theorem printInt_ne_nil (i : Int) : printInt i ≠ [] := by
  unfold printInt
  split
  · exact List.cons_ne_nil _ _
  · exact Nat.toDigits_ne_nil

theorem isNumeral_of_mem_pad {width : Nat} {i : Int} {c : Char}
    (inside : c ∈ pad width (printInt i)) : isNumeral c = true := by
  rcases List.mem_append.mp inside with zero | number
  · rw [List.eq_of_mem_replicate zero]
    decide
  · unfold printInt at number
    split at number
    · rcases List.mem_cons.mp number with rfl | digit
      · decide
      · rw [isNumeral, isDigit_of_mem digit]
        rfl
    · rw [isNumeral, isDigit_of_mem number]
      rfl

/-- A number that was printed is read back in front of any text that does not go on with it. -/
theorem readInt_pad (width : Nat) (i : Int) {rest : List Char} (stops : Stops rest) :
    readInt (pad width (printInt i) ++ rest) = some (i, rest) := by
  have numeral : ∀ c ∈ pad width (printInt i), isNumeral c = true :=
    fun _ inside => isNumeral_of_mem_pad inside
  have after : rest.takeWhile isNumeral = [] ∧ rest.dropWhile isNumeral = rest := by
    cases rest with
    | nil => exact ⟨rfl, rfl⟩
    | cons c rest =>
      have other := stops c rfl
      simp [other]
  have nonempty : pad width (printInt i) ≠ [] :=
    List.append_ne_nil_of_right_ne_nil _ (printInt_ne_nil i)
  unfold readInt
  rw [List.takeWhile_append_of_pos numeral, List.dropWhile_append_of_pos numeral, after.1, after.2,
    List.append_nil]
  simp only [if_neg nonempty, value_pad_printInt]

theorem readInt_printInt (i : Int) {rest : List Char} (stops : Stops rest) :
    readInt (printInt i ++ rest) = some (i, rest) := by
  have padded := readInt_pad 0 i stops
  rwa [pad_zero] at padded

theorem expect_append (text rest : List Char) : expect text (text ++ rest) = some rest := by
  induction text with
  | nil => rfl
  | cons c text ih => simpa [expect] using ih

theorem stops_cons {c : Char} (other : isNumeral c = false) (rest : List Char) :
    Stops (c :: rest) := by
  intro d same
  cases Option.some.inj same
  exact other

/-- Of texts of one length, the first that differ decide. -/
theorem append_lt_append_iff {α : Type*} [LT α] {x y : List α} (same : x.length = y.length)
    (u v : List α) : x ++ u < y ++ v ↔ x < y ∨ x = y ∧ u < v := by
  induction x generalizing y with
  | nil =>
    cases y with
    | nil => simp
    | cons b y => cases same
  | cons a x ih =>
    cases y with
    | nil => cases same
    | cons b y =>
      have rest := ih (Nat.succ.inj same)
      simp only [List.cons_append, List.cons_lt_cons_iff, rest, List.cons.injEq]
      tauto

theorem printInt_natCast (n : Nat) : printInt n = Nat.toDigits 10 n := by
  rw [printInt, if_neg (by omega), Int.natAbs_natCast]

theorem length_pad {width n : Nat} (positive : 0 < width) (small : n < 10 ^ width) :
    (pad width (printInt n)).length = width := by
  have short := (Nat.length_toDigits_le_iff (by decide) positive).mpr small
  rw [printInt_natCast, pad, List.length_append, List.length_replicate]
  omega

theorem pad_succ {width : Nat} (positive : 0 < width) (n : Nat) :
    pad (width + 1) (printInt n) =
      pad width (printInt (n / 10 : Nat)) ++ [(n % 10).digitChar] := by
  rw [printInt_natCast, printInt_natCast, Nat.toDigits_eq_if (by decide)]
  split
  · rename_i digit
    obtain ⟨w, rfl⟩ := Nat.exists_eq_succ_of_ne_zero (Nat.ne_of_gt positive)
    rw [Nat.div_eq_of_lt digit, Nat.mod_eq_of_lt digit, Nat.toDigits_zero]
    simp [pad, List.replicate_succ']
  · simp [pad]

theorem isDigit_of_mem_pad {width n : Nat} {c : Char} (inside : c ∈ pad width (printInt n)) :
    c.isDigit = true := by
  rw [printInt_natCast] at inside
  rcases List.mem_append.mp inside with zero | digit
  · rw [List.eq_of_mem_replicate zero]
    rfl
  · exact isDigit_of_mem digit

theorem digitChar_lt_iff {m n : Nat} (small : m < 10) (small' : n < 10) :
    m.digitChar < n.digitChar ↔ m < n := by
  rw [Char.lt_def, UInt32.lt_iff_toNat_lt]
  have code := Nat.toNat_digitChar_of_lt_ten small
  have code' := Nat.toNat_digitChar_of_lt_ten small'
  simp only [Char.toNat] at *
  omega

theorem pad_inj {width : Nat} {i j : Int} :
    pad width (printInt i) = pad width (printInt j) ↔ i = j := by
  constructor
  · intro same
    rw [← value_pad_printInt width i, same, value_pad_printInt]
  · intro same
    rw [same]

/-- Texts of one width are in the order of their numbers. -/
theorem pad_lt_pad_iff {width m n : Nat} (positive : 0 < width) (small : m < 10 ^ width)
    (small' : n < 10 ^ width) : pad width (printInt m) < pad width (printInt n) ↔ m < n := by
  induction width generalizing m n with
  | zero => exact absurd positive (Nat.lt_irrefl 0)
  | succ width ih =>
    rcases Nat.eq_zero_or_pos width with rfl | positive
    · have alone (k : Nat) (digit : k < 10 ^ (0 + 1)) : pad (0 + 1) (printInt k) = [k.digitChar] := by
        rw [printInt_natCast, Nat.toDigits_of_lt_base (by omega)]
        rfl
      rw [alone m small, alone n small', List.cons_lt_cons_iff, digitChar_lt_iff (by omega) (by omega)]
      simp
    · have quotient : m / 10 < 10 ^ width := by
        rw [Nat.pow_succ] at small
        omega
      have quotient' : n / 10 < 10 ^ width := by
        rw [Nat.pow_succ] at small'
        omega
      have same := (length_pad positive quotient).trans (length_pad positive quotient').symm
      have digits := digitChar_lt_iff (Nat.mod_lt m (by decide)) (Nat.mod_lt n (by decide : 0 < 10))
      rw [pad_succ positive, pad_succ positive, append_lt_append_iff same,
        ih positive quotient quotient', pad_inj, List.cons_lt_cons_iff, digits]
      simp only [List.lt_irrefl, and_false, or_false]
      omega

end TestRunner.Decimal
