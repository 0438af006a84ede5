import BootCode.Proofs.Grammar
/-!
# Writing and reading program text

A written program is its instructions, each as its operation name, a space and its argument
with an explicit sign, each on a line ended by a line feed. Reading that text gives the program
back, for every argument, the extremes of the 32-bit range and zero (written `+0`) included, and
for every length, the empty program (written as the empty text) included; an instruction
written on its own reads back too. So a text that is the written form of a program reads as
exactly one program, whose written form is that text.

The cutting of text into lines and words is pinned down here where writing needs it: a line
without a line feed and not ending in a carriage return comes back as it is, and two words
joined by a blank come back as the two words.
-/

namespace BootCode

-- ---------------------------------------------------------------------------
-- Lines and words
-- ---------------------------------------------------------------------------

namespace Text

theorem linesFrom_line_feed (part cs : List Char) :
    linesFrom part ('\n' :: cs) =
      (match part with
        | '\r' :: r => r.reverse
        | _ => part.reverse) :: linesFrom [] cs := rfl

theorem linesFrom_solid {c : Char} (h : c ≠ '\n') (part cs : List Char) :
    linesFrom part (c :: cs) = linesFrom (c :: part) cs := by
  simp [linesFrom, h]

theorem linesFrom_append {part cs : List Char} (rest : List Char) (h : '\n' ∉ cs) :
    linesFrom part (cs ++ rest) = linesFrom (cs.reverse ++ part) rest := by
  induction cs generalizing part with
  | nil => rfl
  | cons c cs ih =>
    have hc : c ≠ '\n' := fun e => h (e ▸ List.mem_cons_self)
    rw [List.cons_append, linesFrom_solid hc, ih fun m => h (List.mem_cons_of_mem c m)]
    simp

/-- A line without a line feed, not ending in a carriage return, comes back as it is. -/
theorem lines_line_feed {l : List Char} (rest : List Char) (hl : '\n' ∉ l)
    (hr : l.getLast? ≠ some '\r') : lines (l ++ '\n' :: rest) = l :: lines rest := by
  rw [lines, linesFrom_append _ hl, List.append_nil, linesFrom_line_feed, lines]
  congr 1
  split
  · rename_i r hrev
    -- the carriage return read first from the reversed line is its last character
    rw [List.getLast?_eq_head?_reverse, hrev] at hr
    exact absurd rfl hr
  · exact List.reverse_reverse l

/-- Lines that each pass `lines_line_feed`, each ended by a line feed, come back as they are. -/
theorem lines_flatMap {ls : List (List Char)}
    (h : ∀ l ∈ ls, '\n' ∉ l ∧ l.getLast? ≠ some '\r') :
    lines (ls.flatMap (· ++ ['\n'])) = ls := by
  induction ls with
  | nil => rfl
  | cons l ls ih =>
    obtain ⟨hl, hr⟩ := h l List.mem_cons_self
    rw [List.flatMap_cons, List.append_assoc, List.singleton_append, lines_line_feed _ hl hr,
      ih fun l' m => h l' (List.mem_cons_of_mem l m)]

theorem wordsFrom_solid_append {part cs : List Char} (rest : List Char)
    (h : ∀ c ∈ cs, isBlank c = false) :
    wordsFrom part (cs ++ rest) = wordsFrom (cs.reverse ++ part) rest := by
  induction cs generalizing part with
  | nil => rfl
  | cons c cs ih =>
    rw [List.cons_append, wordsFrom_solid (h c List.mem_cons_self),
      ih fun c' m => h c' (List.mem_cons_of_mem c m)]
    simp

/-- Two runs of characters that are not blank, joined by one blank, are two words. -/
theorem words_pair {m v : List Char} {b : Char} (hm : m ≠ []) (hv : v ≠ [])
    (hms : ∀ c ∈ m, isBlank c = false) (hvs : ∀ c ∈ v, isBlank c = false)
    (hb : isBlank b = true) : words (m ++ b :: v) = [m, v] := by
  have hv' := @wordsFrom_solid_append [] v [] hvs
  rw [List.append_nil, List.append_nil] at hv'
  rw [words, wordsFrom_solid_append _ hms, List.append_nil, wordsFrom_blank hb, hv',
    wordsFrom_nil]
  simp [hm, hv]

theorem trim_isEmpty_eq_false {c : Char} {cs : List Char} (hc : c ∈ cs)
    (hs : isBlank c = false) : (trim cs).isEmpty = false := by
  -- dropping blanks at either end keeps every character that is not blank in view
  have hany : (trim cs).any (fun x => !isBlank x) = true := by
    rw [trim, List.any_reverse, List.any_dropWhile, List.all_reverse, List.not_all_eq_any_not,
      List.any_dropWhile, List.not_all_eq_any_not, List.any_eq_true]
    exact ⟨c, hc, by simp [hs]⟩
  cases h : trim cs with
  | nil =>
    rw [h] at hany
    cases hany
  | cons _ _ => rfl

end Text

-- ---------------------------------------------------------------------------
-- The characters of written instructions
-- ---------------------------------------------------------------------------

namespace Numeral

theorem ne_nil_of_spells {v : List Char} {n : Int} (h : Spells v n) : v ≠ [] := by
  cases h <;> simp_all

/-- A numeral is made of signs and digits. -/
theorem sign_or_digit_of_spells {v : List Char} {n : Int} (h : Spells v n) :
    ∀ c ∈ v, c = '+' ∨ c = '-' ∨ c.isDigit := by
  cases h with
  | unsigned _ hd => exact fun c hc => .inr (.inr (hd c hc))
  | plus _ hd =>
    intro c hc
    rcases List.mem_cons.1 hc with rfl | hc
    · exact .inl rfl
    · exact .inr (.inr (hd c hc))
  | minus _ hd =>
    intro c hc
    rcases List.mem_cons.1 hc with rfl | hc
    · exact .inr (.inl rfl)
    · exact .inr (.inr (hd c hc))

end Numeral

/-- The characters that written instructions are made of: none is blank, a line feed or a
carriage return. -/
def Plain (c : Char) : Prop :=
  Text.isBlank c = false ∧ c ≠ '\n' ∧ c ≠ '\r'

instance (c : Char) : Decidable (Plain c) :=
  inferInstanceAs (Decidable (_ ∧ _ ∧ _))

theorem plain_of_sign_or_digit {c : Char} (h : c = '+' ∨ c = '-' ∨ c.isDigit) : Plain c := by
  rcases h with rfl | rfl | hd
  · decide
  · decide
  · have := (Char.isDigit_iff_toNat).1 hd
    refine ⟨?_, ?_, ?_⟩
    · simp only [Text.isBlank]
      simp only [Char.reduceToNat] at this
      grind
    · rintro rfl
      simp at this
    · rintro rfl
      simp at this

theorem Opcode.mnemonic_toList_ne_nil (op : Opcode) : op.mnemonic.toList ≠ [] := by
  cases op <;> decide

theorem plain_of_mem_mnemonic {op : Opcode} {c : Char} (h : c ∈ op.mnemonic.toList) : Plain c := by
  -- each name is three lower-case letters
  cases op <;> simp [Opcode.mnemonic] at h <;> rcases h with rfl | rfl | rfl <;> decide

theorem plain_of_mem_signed {n : Int} {c : Char} (h : c ∈ (signed n).toList) : Plain c :=
  plain_of_sign_or_digit (Numeral.sign_or_digit_of_spells (Numeral.spells_signed n) c h)

namespace Instruction

theorem render_toList (i : Instruction) :
    i.render.toList = i.op.mnemonic.toList ++ ' ' :: (signed i.arg.toInt).toList := by
  simp [render, String.toList_append]

/-- A written instruction spells the instruction. -/
theorem spells_render (i : Instruction) : Spells i.render.toList i := by
  have hv := Numeral.ne_nil_of_spells (Numeral.spells_signed i.arg.toInt)
  refine ⟨(signed i.arg.toInt).toList, ?_, Numeral.spells_signed _⟩
  rw [render_toList]
  exact Text.words_pair i.op.mnemonic_toList_ne_nil hv (fun c hc => (plain_of_mem_mnemonic hc).1)
    (fun c hc => (plain_of_mem_signed hc).1) (by decide)

/-- A written instruction is one line: it has no line feed and no carriage return. -/
theorem ne_line_end_of_mem_render {i : Instruction} {c : Char} (h : c ∈ i.render.toList) :
    c ≠ '\n' ∧ c ≠ '\r' := by
  rw [render_toList] at h
  rcases List.mem_append.1 h with h | h
  · exact (plain_of_mem_mnemonic h).2
  rcases List.mem_cons.1 h with rfl | h
  · decide
  · exact (plain_of_mem_signed h).2

/-- A written instruction is an instruction line: its operation name is not blank. -/
theorem trim_render_isEmpty (i : Instruction) : (Text.trim i.render.toList).isEmpty = false := by
  obtain ⟨c, cs, hc⟩ := List.exists_cons_of_ne_nil i.op.mnemonic_toList_ne_nil
  have hname : c ∈ i.op.mnemonic.toList := by
    rw [hc]
    exact List.mem_cons_self
  have hmem : c ∈ i.render.toList := by
    rw [render_toList]
    exact List.mem_append_left _ hname
  exact Text.trim_isEmpty_eq_false hmem (plain_of_mem_mnemonic hname).1

end Instruction

-- ---------------------------------------------------------------------------
-- Reading written programs
-- ---------------------------------------------------------------------------

namespace Program

theorem render_toList (p : Program) :
    p.render.toList = (p.instructions.toList.map fun i => i.render.toList).flatMap (· ++ ['\n']) := by
  simp [render, String.toList_join, List.flatMap_map, String.toList_append]

/-- The lines of a written program are its written instructions. -/
theorem lines_render (p : Program) :
    Text.lines p.render.toList = p.instructions.toList.map fun i => i.render.toList := by
  rw [render_toList]
  refine Text.lines_flatMap fun l hl => ?_
  obtain ⟨i, -, rfl⟩ := List.mem_map.1 hl
  refine ⟨fun h => (Instruction.ne_line_end_of_mem_render h).1 rfl, fun h => ?_⟩
  exact (Instruction.ne_line_end_of_mem_render (List.mem_of_getLast? h)).2 rfl

/-- Reading written instructions, whatever the numbers of their lines, adds them in order. -/
theorem readLines_render (n : Nat) (is : List Instruction) (acc : Array Instruction) :
    readLines n (is.map fun i => i.render.toList) acc = .ok ⟨(acc.toList ++ is).toArray⟩ := by
  induction is generalizing n acc with
  | nil => simp [readLines]
  | cons i is ih =>
    rw [List.map_cons, readLines_solid i.trim_render_isEmpty,
      Instruction.read_eq_ok_iff.2 (Instruction.spells_render i)]
    dsimp only
    rw [ih]
    simp

/-- Reading a written program gives the program back; reading a written instruction gives the
instruction back; and a text written from a program reads as a program written the same way. -/
theorem parse_render_roundTrip :
    (∀ p : Program, parse p.render = .ok p) ∧
    (∀ i : Instruction, Instruction.parse i.render = .ok i) ∧
    ∀ p q : Program, parse p.render = .ok q → q.render = p.render := by
  have hp : ∀ p : Program, parse p.render = .ok p := by
    intro p
    rw [parse, lines_render, readLines_render]
    simp
  refine ⟨hp, fun i => ?_, fun p q h => ?_⟩
  · rw [Instruction.parse, Instruction.read_eq_ok_iff.2 (Instruction.spells_render i)]
  · rw [hp p] at h
    cases h
    rfl

/-- The extremes of the argument range and zero are written and read back. -/
theorem parse_render_extremes :
    parse (⟨#[⟨.nop, 0⟩, ⟨.acc, -2147483648⟩, ⟨.jmp, 2147483647⟩]⟩ : Program).render =
        .ok ⟨#[⟨.nop, 0⟩, ⟨.acc, -2147483648⟩, ⟨.jmp, 2147483647⟩]⟩ ∧
      (⟨#[⟨.nop, 0⟩, ⟨.acc, -2147483648⟩, ⟨.jmp, 2147483647⟩]⟩ : Program).render =
        (⟨#[⟨.nop, 0⟩, ⟨.acc, -2147483648⟩, ⟨.jmp, 2147483647⟩]⟩ : Program).render :=
  have h : parse (⟨#[⟨.nop, 0⟩, ⟨.acc, -2147483648⟩, ⟨.jmp, 2147483647⟩]⟩ : Program).render =
      .ok ⟨#[⟨.nop, 0⟩, ⟨.acc, -2147483648⟩, ⟨.jmp, 2147483647⟩]⟩ := by rfl
  ⟨h, parse_render_roundTrip.2.2 _ _ h⟩

example : (⟨#[]⟩ : Program).render = "" := rfl
example : (⟨#[⟨.nop, 0⟩, ⟨.acc, -2147483648⟩]⟩ : Program).render = "nop +0\nacc -2147483648\n" := by
  decide

end Program

end BootCode
