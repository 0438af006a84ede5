import Mathlib.Data.List.Forall2
import BootCode.Program
import BootCode.Proofs.Numeral
/-!
# The grammar of program text

A line spells an instruction when its words are exactly two, the name of an operation and a
numeral of the 32-bit range (`Instruction.Spells`). A line is an instruction line when something
other than blanks is left after trimming it; the others are skipped but still counted. A text
reads as a program exactly when every instruction line spells an instruction, and the program
is then those instructions in order. Otherwise the fault names the first instruction line that
does not, by its number among all lines, with its text and the first check it fails, in the
order word count, operation name, numeral (`LineFault.Explains`).
-/

namespace BootCode

namespace Opcode

theorem ofMnemonic?_eq_some_iff {s : String} {op : Opcode} :
    ofMnemonic? s = some op ↔ s = op.mnemonic := by
  by_cases h1 : s = "nop"
  · subst h1
    cases op <;> decide
  by_cases h2 : s = "acc"
  · subst h2
    cases op <;> decide
  by_cases h3 : s = "jmp"
  · subst h3
    cases op <;> decide
  -- no other name is read
  have hnone : ofMnemonic? s = none := by simp [ofMnemonic?, h1, h2, h3]
  rw [hnone]
  cases op <;> simp_all [mnemonic]

end Opcode

-- ---------------------------------------------------------------------------
-- One line
-- ---------------------------------------------------------------------------

namespace Instruction

/-- The line spells `i`: its words are the name of the operation of `i` and a numeral of its
argument. -/
def Spells (l : List Char) (i : Instruction) : Prop :=
  ∃ v, Text.words l = [i.op.mnemonic.toList, v] ∧ Numeral.Spells v i.arg.toInt

end Instruction

/-- `e` is the first check the line fails: the number of words, then the operation name, then
the numeral. The fault of a bad numeral may be any of its kinds. -/
inductive LineFault.Explains (l : List Char) : LineFault → Prop
  | shape : (Text.words l).length ≠ 2 → Explains l .shape
  | mnemonic {m v : List Char} : Text.words l = [m, v] → (∀ op : Opcode, m ≠ op.mnemonic.toList) →
      Explains l (.mnemonic (String.ofList m))
  | operand {m v : List Char} {e : NumeralFault} (op : Opcode) : Text.words l = [m, v] →
      m = op.mnemonic.toList → (∀ a : Int32, ¬ Numeral.Spells v a.toInt) →
      Explains l (.operand (String.ofList v) e)

namespace Instruction

theorem ofMnemonic?_ofList_eq_some_iff {m : List Char} {op : Opcode} :
    Opcode.ofMnemonic? (String.ofList m) = some op ↔ m = op.mnemonic.toList := by
  rw [Opcode.ofMnemonic?_eq_some_iff]
  constructor
  · rintro h
    rw [← h, String.toList_ofList]
  · rintro rfl
    exact String.ofList_toList

theorem spells_iff_of_words {l m v : List Char} {i : Instruction} (hw : Text.words l = [m, v]) :
    Spells l i ↔ m = i.op.mnemonic.toList ∧ Numeral.Spells v i.arg.toInt := by
  unfold Spells
  rw [hw]
  constructor
  · rintro ⟨v', h, hs⟩
    simp only [List.cons.injEq, and_true] at h
    obtain ⟨rfl, rfl⟩ := h
    exact ⟨rfl, hs⟩
  · rintro ⟨rfl, hs⟩
    exact ⟨v, rfl, hs⟩

/-- A line of two words is read by the operation name, then the numeral. -/
theorem read_of_words_pair {l m v : List Char} (hw : Text.words l = [m, v]) :
    read l = match Opcode.ofMnemonic? (String.ofList m) with
      | none => .error (.mnemonic (String.ofList m))
      | some op =>
        match Numeral.readInt32 v with
        | .error e => .error (.operand (String.ofList v) e)
        | .ok n => .ok ⟨op, n⟩ := by
  cases hop : Opcode.ofMnemonic? (String.ofList m) <;> cases hv : Numeral.readInt32 v <;>
    simp [read, hw, hop, hv]

/-- A line of any other number of words is a fault of shape. -/
theorem read_of_not_pair {l : List Char} (hw : ∀ m v, Text.words l ≠ [m, v]) :
    read l = .error .shape := by
  unfold read
  split
  · rename_i m v h
    exact absurd h (hw m v)
  · rfl

/-- A line reads as exactly the instruction it spells. -/
theorem read_eq_ok_iff {l : List Char} {i : Instruction} : read l = .ok i ↔ Spells l i := by
  by_cases hpair : ∃ m v, Text.words l = [m, v]
  · obtain ⟨m, v, hw⟩ := hpair
    rw [read_of_words_pair hw, spells_iff_of_words hw, ← ofMnemonic?_ofList_eq_some_iff,
      ← Numeral.readInt32_eq_ok_iff]
    -- the name fixes the operation and the numeral the argument
    rcases i with ⟨op, a⟩
    cases Opcode.ofMnemonic? (String.ofList m) <;> cases Numeral.readInt32 v <;> simp
  · push Not at hpair
    rw [read_of_not_pair hpair]
    simp only [reduceCtorEq, false_iff]
    rintro ⟨v, h, -⟩
    exact hpair _ _ h

/-- A line that does not read is explained by the first check it fails. -/
theorem explains_of_read {l : List Char} {e : LineFault} (h : read l = .error e) :
    e.Explains l := by
  by_cases hpair : ∃ m v, Text.words l = [m, v]
  · obtain ⟨m, v, hw⟩ := hpair
    rw [read_of_words_pair hw] at h
    cases hop : Opcode.ofMnemonic? (String.ofList m) with
    | none =>
      rw [hop] at h
      cases h
      refine .mnemonic hw fun op hm => ?_
      rw [hm, ofMnemonic?_ofList_eq_some_iff.2 rfl] at hop
      cases hop
    | some op =>
      rw [hop] at h
      cases hv : Numeral.readInt32 v with
      | error e' =>
        rw [hv] at h
        cases h
        refine .operand op hw (ofMnemonic?_ofList_eq_some_iff.1 hop) fun a hs => ?_
        rw [Numeral.readInt32_eq_ok_iff.2 hs] at hv
        cases hv
      | ok a =>
        rw [hv] at h
        cases h
  · push Not at hpair
    rw [read_of_not_pair hpair] at h
    cases h
    refine .shape fun hlen => ?_
    match hws : Text.words l, hlen with
    | [m, v], _ => exact hpair m v hws

end Instruction

-- ---------------------------------------------------------------------------
-- Whole texts
-- ---------------------------------------------------------------------------

namespace Program

/-- The lines from number `n` on that hold more than blanks, each with its number. -/
def numberedFrom (n : Nat) (ls : List (List Char)) : List (List Char × Nat) :=
  (ls.zipIdx n).filter fun x => !(Text.trim x.1).isEmpty

/-- The instruction lines of a text with their numbers, lines counted from 1, blank ones
included. -/
def instructionLines (t : String) : List (List Char × Nat) :=
  numberedFrom 1 (Text.lines t.toList)

theorem numberedFrom_nil (n : Nat) : numberedFrom n [] = [] := rfl

theorem numberedFrom_blank {n : Nat} {l : List Char} (ls : List (List Char))
    (h : (Text.trim l).isEmpty = true) : numberedFrom n (l :: ls) = numberedFrom (n + 1) ls := by
  simp [numberedFrom, List.zipIdx_cons, h]

theorem numberedFrom_solid {n : Nat} {l : List Char} (ls : List (List Char))
    (h : (Text.trim l).isEmpty = false) :
    numberedFrom n (l :: ls) = (l, n) :: numberedFrom (n + 1) ls := by
  simp [numberedFrom, List.zipIdx_cons, h]

theorem readLines_blank {n : Nat} {l : List Char} {ls : List (List Char)} {acc : Array Instruction}
    (h : (Text.trim l).isEmpty = true) : readLines n (l :: ls) acc = readLines (n + 1) ls acc := by
  rw [readLines, if_pos h]

/-- A line read on its own and then given a number is the line's fault at that number. -/
theorem parse_mapError_atLine (n : Nat) (l : List Char) :
    (Instruction.parse (String.ofList l)).mapError (Fault.atLine n) =
      (Instruction.read l).mapError fun e => .invalidInstruction n (String.ofList l) e.reason := by
  unfold Instruction.parse
  rw [String.toList_ofList]
  cases Instruction.read l with
  | error e => rfl
  | ok i => rfl

theorem readLines_solid {n : Nat} {l : List Char} {ls : List (List Char)} {acc : Array Instruction}
    (h : (Text.trim l).isEmpty = false) : readLines n (l :: ls) acc =
      match Instruction.read l with
      | .error e => .error (.invalidInstruction n (String.ofList l) e.reason)
      | .ok i => readLines (n + 1) ls (acc.push i) := by
  rw [readLines, if_neg (ne_true_of_eq_false h), parse_mapError_atLine]
  cases Instruction.read l with
  | error e => rfl
  | ok i => rfl

/-- Reading lines succeeds exactly when every instruction line spells an instruction, and then
adds those instructions to what was read before. -/
theorem readLines_eq_ok_iff {n : Nat} {ls : List (List Char)} {acc xs : Array Instruction} :
    readLines n ls acc = .ok ⟨xs⟩ ↔
      ∃ ys, xs.toList = acc.toList ++ ys ∧
        List.Forall₂ (fun x i => Instruction.Spells x.1 i) (numberedFrom n ls) ys := by
  induction ls generalizing n acc with
  | nil =>
    simp only [readLines, Except.ok.injEq, Program.mk.injEq, numberedFrom_nil,
      List.forall₂_nil_left_iff, exists_eq_right, List.append_nil]
    constructor
    · rintro rfl
      rfl
    · intro h
      exact (Array.toList_inj.1 h).symm
  | cons l ls ih =>
    cases hb : (Text.trim l).isEmpty with
    | true =>
      rw [readLines_blank hb, numberedFrom_blank ls hb]
      exact ih
    | false =>
      rw [readLines_solid hb, numberedFrom_solid ls hb]
      cases hr : Instruction.read l with
      | error e =>
        simp only [reduceCtorEq, false_iff, not_exists, not_and]
        intro ys _ hys
        cases hys with
        | cons hy _ =>
          rw [Instruction.read_eq_ok_iff.2 hy] at hr
          cases hr
      | ok i =>
        simp only [ih, Array.toList_push, List.append_assoc, List.singleton_append,
          List.forall₂_cons_left_iff]
        constructor
        · rintro ⟨ys, hxs, hys⟩
          exact ⟨i :: ys, hxs, i, ys, Instruction.read_eq_ok_iff.1 hr, hys, rfl⟩
        · rintro ⟨_, hxs, y, ys, hy, hys, rfl⟩
          -- the instruction line spells only the instruction it reads as
          rw [Instruction.read_eq_ok_iff.2 hy] at hr
          cases hr
          exact ⟨ys, hxs, hys⟩

/-- A failed reading of lines names the first instruction line that spells no instruction,
after lines that all do. -/
theorem readLines_eq_error {n : Nat} {ls : List (List Char)} {acc : Array Instruction} {f : Fault}
    (h : readLines n ls acc = .error f) :
    ∃ pre l k post e, numberedFrom n ls = pre ++ (l, k) :: post ∧
      (∀ x ∈ pre, ∃ i, Instruction.Spells x.1 i) ∧ LineFault.Explains l e ∧
      f = .invalidInstruction k (String.ofList l) e.reason := by
  induction ls generalizing n acc with
  | nil => cases h
  | cons l ls ih =>
    cases hb : (Text.trim l).isEmpty with
    | true =>
      rw [readLines_blank hb] at h
      rw [numberedFrom_blank ls hb]
      exact ih h
    | false =>
      rw [readLines_solid hb] at h
      rw [numberedFrom_solid ls hb]
      cases hr : Instruction.read l with
      | error e =>
        rw [hr] at h
        cases h
        exact ⟨[], l, n, _, e, rfl, by simp, Instruction.explains_of_read hr, rfl⟩
      | ok i =>
        rw [hr] at h
        obtain ⟨pre, l', k, post, e, hsplit, hpre, he, rfl⟩ := ih h
        refine ⟨(l, n) :: pre, l', k, post, e, by rw [hsplit]; rfl, ?_, he, rfl⟩
        intro x hx
        rcases List.mem_cons.1 hx with rfl | hx
        · exact ⟨i, Instruction.read_eq_ok_iff.1 hr⟩
        · exact hpre x hx

end Program

namespace Program

/-- A text reads as a program exactly when each of its instruction lines spells an instruction,
and the program holds those instructions in order. A text that does not read names its first
instruction line that spells none, by its number among all lines, with its text and the first
check that line fails. -/
theorem parse_eq_ok_iff_and_first_fault (t : String) :
    (∀ xs : Array Instruction, parse t = .ok ⟨xs⟩ ↔
      List.Forall₂ (fun x i => Instruction.Spells x.1 i) (instructionLines t) xs.toList) ∧
    ∀ f, parse t = .error f →
      ∃ pre l n post e, instructionLines t = pre ++ (l, n) :: post ∧
        (∀ x ∈ pre, ∃ i, Instruction.Spells x.1 i) ∧ LineFault.Explains l e ∧
        f = .invalidInstruction n (String.ofList l) e.reason := by
  refine ⟨fun xs => ?_, fun f h => readLines_eq_error h⟩
  rw [parse, readLines_eq_ok_iff]
  constructor
  · rintro ⟨ys, hxs, hys⟩
    rw [hxs]
    exact hys
  · intro h
    exact ⟨xs.toList, rfl, h⟩

/-- The fourth line of this text, after a blank one, has an unknown operation name. -/
theorem parse_reports_unknown_name :
    parse "acc +1\n\nnop +0\nmul +2\n" =
        .error (.invalidInstruction 4 "mul +2" "unknown mnemonic 'mul'") ∧
      ∃ pre l n post e, instructionLines "acc +1\n\nnop +0\nmul +2\n" = pre ++ (l, n) :: post ∧
        (∀ x ∈ pre, ∃ i, Instruction.Spells x.1 i) ∧ LineFault.Explains l e ∧
        Fault.invalidInstruction 4 "mul +2" "unknown mnemonic 'mul'" =
          .invalidInstruction n (String.ofList l) e.reason :=
  have h : parse "acc +1\n\nnop +0\nmul +2\n" =
      .error (.invalidInstruction 4 "mul +2" "unknown mnemonic 'mul'") := by rfl
  ⟨h, (parse_eq_ok_iff_and_first_fault _).2 _ h⟩

end Program

end BootCode
