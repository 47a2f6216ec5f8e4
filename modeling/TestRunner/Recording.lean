import TestRunner.Core
import TestRunner.Decimal

/-! The text of a recording file, and its event lines read back. -/
namespace TestRunner

open Decimal

def DeviceType.number : DeviceType → Nat
  | .mouse => 0
  | .keyboard => 1
  | .touchscreen => 2
  | .multitouchscreen => 3
  | .unknown => 4

/-- Milliseconds as `hh:mm:ss.mmm`, by the division of C++ toward zero. -/
def currentTimeStr (ms : Int) : List Char :=
  let hours := (ms.tdiv 3600000).tmod 24
  let ms := ms.tmod 3600000
  let minutes := ms.tdiv 60000
  let ms := ms.tmod 60000
  let seconds := ms.tdiv 1000
  let ms := ms.tmod 1000
  pad 2 (printInt hours) ++ ':' :: pad 2 (printInt minutes) ++ ':' :: pad 2 (printInt seconds) ++
    '.' :: pad 3 (printInt ms)

def keysymText (keysym : UInt32) : List Char :=
  if keysym = 0 then [] else ' ' :: printInt keysym.toNat

def versionText : List Char := ['v', 'e', 'r', 's', 'i', 'o', 'n', ' ']
def passThroughText : List Char := ['p', 'a', 's', 's', 'T', 'h', 'r', 'o', 'u', 'g', 'h', ' ']

def Line.text : Line → List Char
  | .version n => versionText ++ printInt n ++ ['\n']
  | .start ms => '[' :: currentTimeStr ms ++ [']', '\n']
  | .passThrough r => '[' :: currentTimeStr r.tsAbs ++ ']' :: ' ' :: passThroughText ++
      printInt r.devType.number ++ ' ' :: printInt r.inputType ++ ' ' :: printInt r.inputCode ++
      ' ' :: printInt r.inputVal ++ keysymText r.keysym ++ ['\n']

/-- What an event line says. -/
structure Decoded where
  timeOfDay : Int
  device : Int
  type : Int
  code : Int
  value : Int
  keysym : Int
  deriving DecidableEq, Repr

def dayMs : Int := 86400000

def InputRecord.decoded (r : InputRecord) : Decoded :=
  ⟨r.tsAbs.tmod dayMs, r.devType.number, r.inputType, r.inputCode, r.inputVal, r.keysym.toNat⟩

def readTime (text : List Char) : Option (Int × List Char) := do
  let (hours, text) ← readInt text
  let text ← expect [':'] text
  let (minutes, text) ← readInt text
  let text ← expect [':'] text
  let (seconds, text) ← readInt text
  let text ← expect ['.'] text
  let (ms, text) ← readInt text
  some (hours * 3600000 + minutes * 60000 + seconds * 1000 + ms, text)

/-- A fifth number is the keysym; without it the keysym is 0. -/
def readKeysym (text : List Char) : Option (Int × List Char) :=
  match expect [' '] text with
  | some text => readInt text
  | none => some (0, text)

def readLine (text : List Char) : Option (Decoded × List Char) := do
  let text ← expect ['['] text
  let (timeOfDay, text) ← readTime text
  let text ← expect (']' :: ' ' :: passThroughText) text
  let (device, text) ← readInt text
  let text ← expect [' '] text
  let (type, text) ← readInt text
  let text ← expect [' '] text
  let (code, text) ← readInt text
  let text ← expect [' '] text
  let (value, text) ← readInt text
  let (keysym, text) ← readKeysym text
  let text ← expect ['\n'] text
  some (⟨timeOfDay, device, type, code, value, keysym⟩, text)

/-- All lines of a text, in at most so many steps. -/
def readLines : Nat → List Char → Option (List Decoded)
  | _, [] => some []
  | 0, _ :: _ => none
  | n + 1, text@(_ :: _) => do
    let (line, rest) ← readLine text
    let lines ← readLines n rest
    some (line :: lines)

def decodeBody (text : List Char) : Option (List Decoded) := readLines text.length text

/-- The event lines of a file. -/
def bodyText (records : List InputRecord) : List Char :=
  records.flatMap fun r => (Line.passThrough r).text

theorem timeOfDay_nonneg {ts : Int} (nonneg : 0 ≤ ts) :
    (ts.tdiv 3600000).tmod 24 * 3600000 + (ts.tmod 3600000).tdiv 60000 * 60000 +
      ((ts.tmod 3600000).tmod 60000).tdiv 1000 * 1000 +
      ((ts.tmod 3600000).tmod 60000).tmod 1000 = ts.tmod dayMs := by
  have hours : 0 ≤ ts / 3600000 := by omega
  have inHour : 0 ≤ ts % 3600000 := by omega
  have inMinute : 0 ≤ ts % 3600000 % 60000 := by omega
  rw [Int.tdiv_eq_ediv_of_nonneg nonneg, Int.tmod_eq_emod_of_nonneg nonneg,
    Int.tmod_eq_emod_of_nonneg hours, Int.tdiv_eq_ediv_of_nonneg inHour,
    Int.tmod_eq_emod_of_nonneg inHour, Int.tdiv_eq_ediv_of_nonneg inMinute,
    Int.tmod_eq_emod_of_nonneg inMinute, Int.tmod_eq_emod_of_nonneg nonneg, dayMs]
  omega

/-- The four fields of a time make up the time of day. -/
theorem timeOfDay_fields (ts : Int) :
    (ts.tdiv 3600000).tmod 24 * 3600000 + (ts.tmod 3600000).tdiv 60000 * 60000 +
      ((ts.tmod 3600000).tmod 60000).tdiv 1000 * 1000 +
      ((ts.tmod 3600000).tmod 60000).tmod 1000 = ts.tmod dayMs := by
  by_cases nonneg : 0 ≤ ts
  · exact timeOfDay_nonneg nonneg
  · obtain ⟨n, rfl⟩ : ∃ n, ts = -n := ⟨-ts, by omega⟩
    have mirrored := timeOfDay_nonneg (show (0 : Int) ≤ n by omega)
    simp only [Int.neg_tdiv, Int.neg_tmod]
    omega

@[simp] theorem expect_singleton (c : Char) (text : List Char) :
    expect [c] (c :: text) = some text := expect_append [c] text

theorem readTime_currentTimeStr (ts : Int) {rest : List Char} (stops : Stops rest) :
    readTime (currentTimeStr ts ++ rest) = some (ts.tmod dayMs, rest) := by
  have colon : ∀ text : List Char, Stops (':' :: text) := fun text => stops_cons (by decide) text
  have dot : ∀ text : List Char, Stops ('.' :: text) := fun text => stops_cons (by decide) text
  rw [← timeOfDay_fields]
  simp only [currentTimeStr, List.append_assoc, List.cons_append]
  simp only [readTime, readInt_pad _ _ (colon _), readInt_pad _ _ (dot _), readInt_pad _ _ stops,
    expect_singleton, Option.bind_eq_bind, Option.bind_some]

theorem stops_newline (text : List Char) : Stops ('\n' :: text) := stops_cons (by decide) text

theorem readKeysym_keysymText (keysym : UInt32) (rest : List Char) :
    readKeysym (keysymText keysym ++ '\n' :: rest) = some ((keysym.toNat : Int), '\n' :: rest) := by
  unfold keysymText readKeysym
  by_cases zero : keysym = 0
  · rw [if_pos zero, zero]
    rfl
  · rw [if_neg zero, List.cons_append, expect_singleton]
    exact readInt_printInt _ (stops_newline rest)

/-- The reader takes exactly the line that was printed. -/
theorem readLine_text (r : InputRecord) (rest : List Char) :
    readLine ((Line.passThrough r).text ++ rest) = some (r.decoded, rest) := by
  have blank : ∀ text : List Char, Stops (' ' :: text) := fun text => stops_cons (by decide) text
  have bracket : ∀ text : List Char, Stops (']' :: text) := fun text => stops_cons (by decide) text
  have last : Stops (keysymText r.keysym ++ '\n' :: rest) := by
    unfold keysymText
    split
    · exact stops_newline rest
    · exact blank _
  have middle : ∀ text : List Char,
      expect (']' :: ' ' :: passThroughText) (']' :: ' ' :: (passThroughText ++ text)) = some text :=
    fun text => expect_append (']' :: ' ' :: passThroughText) text
  simp only [Line.text, List.append_assoc, List.cons_append, List.nil_append]
  simp only [readLine, readTime_currentTimeStr _ (bracket _), middle, readInt_printInt _ (blank _),
    readInt_printInt _ last, readKeysym_keysymText, InputRecord.decoded, expect_singleton,
    Option.bind_eq_bind, Option.bind_some]

theorem readLines_bodyText (records : List InputRecord) {n : Nat} (enough : records.length ≤ n) :
    readLines n (bodyText records) = some (records.map InputRecord.decoded) := by
  induction records generalizing n with
  | nil => cases n <;> rfl
  | cons r records ih =>
    obtain ⟨m, rfl⟩ : ∃ m, n = m + 1 := Nat.exists_eq_succ_of_ne_zero (by
      rw [List.length_cons] at enough
      omega)
    have line := readLine_text r (bodyText records)
    have rest := ih (n := m) (by simpa using enough)
    obtain ⟨c, text, nonempty⟩ : ∃ c text,
        (Line.passThrough r).text ++ bodyText records = c :: text := ⟨_, _, rfl⟩
    rw [nonempty] at line
    rw [bodyText, List.flatMap_cons]
    change readLines (m + 1) ((Line.passThrough r).text ++ bodyText records) = _
    rw [nonempty, readLines, line]
    simp [rest]

theorem length_le_bodyText (records : List InputRecord) :
    records.length ≤ (bodyText records).length := by
  induction records with
  | nil => exact Nat.le_refl _
  | cons r records ih =>
    have line : 1 ≤ (Line.passThrough r).text.length := by simp [Line.text]
    rw [bodyText, List.flatMap_cons, List.length_append, List.length_cons]
    rw [bodyText] at ih
    omega

/-- The event lines of a file tell what was recorded. -/
theorem decodeBody_bodyText (records : List InputRecord) :
    decodeBody (bodyText records) = some (records.map InputRecord.decoded) :=
  readLines_bodyText records (length_le_bodyText records)

/-- The same but for the day. -/
def SameButDay (a b : InputRecord) : Prop :=
  dayMs ∣ a.tsAbs - b.tsAbs ∧ { a with tsAbs := b.tsAbs } = b

theorem DeviceType.number_injective : Function.Injective DeviceType.number := by
  intro a b same
  cases a <;> cases b <;> first | rfl | cases same

theorem decoded_sameButDay {a b : InputRecord} (same : a.decoded = b.decoded) : SameButDay a b := by
  simp only [InputRecord.decoded, Decoded.mk.injEq] at same
  obtain ⟨time, device, type, code, value, keysym⟩ := same
  have device' : a.devType = b.devType := DeviceType.number_injective (by exact_mod_cast device)
  have keysym' : a.keysym = b.keysym := UInt32.toNat_inj.mp (by exact_mod_cast keysym)
  refine ⟨?_, ?_⟩
  · have ha := Int.tmod_add_mul_tdiv a.tsAbs dayMs
    have hb := Int.tmod_add_mul_tdiv b.tsAbs dayMs
    refine ⟨a.tsAbs.tdiv dayMs - b.tsAbs.tdiv dayMs, ?_⟩
    rw [Int.mul_sub]
    omega
  · cases a
    cases b
    simp_all

/-- Two lists with one body differ in whole days at most. -/
theorem bodyText_sameButDay {records others : List InputRecord}
    (same : bodyText others = bodyText records) : List.Forall₂ SameButDay others records := by
  have decoded := decodeBody_bodyText others
  rw [same, decodeBody_bodyText records] at decoded
  have equal := Option.some.inj decoded
  clear same decoded
  induction records generalizing others with
  | nil =>
    rw [List.map_nil, eq_comm, List.map_eq_nil_iff] at equal
    rw [equal]
    exact .nil
  | cons r records ih =>
    cases others with
    | nil => cases equal
    | cons o others =>
      obtain ⟨head, tail⟩ := List.cons.inj equal
      exact .cons (decoded_sameButDay head.symm) (ih tail)

end TestRunner
