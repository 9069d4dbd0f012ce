import StackLexer.Regex.Program

namespace StackLexer.Regex

-- A label is a number of bytes that a thread still has to read. The instruction at the address lets
-- the label fall by no more than what it reads.
def Inst.Fits (label : Nat → Nat) (pc : Nat) : Inst → Prop
  | .char c => label pc ≤ label (pc + 1) + c.utf8Size
  | .set chars => ∀ c, chars.mem c = true → label pc ≤ label (pc + 1) + c.utf8Size
  | .look _ | .opens _ | .closes _ => label pc ≤ label (pc + 1)
  | .split first second => label pc ≤ label first ∧ label pc ≤ label second
  | .jump target => label pc ≤ label target
  | .accept => label pc = 0

theorem Inst.branch_fits {label : Nat → Nat} {pc body exit : Nat} (greedy : Bool) :
    (Inst.branch greedy body exit).Fits label pc ↔
      label pc ≤ label body ∧ label pc ≤ label exit := by
  cases greedy with
  | true => exact Iff.rfl
  | false => exact And.comm

-- The same for all instructions of some code that starts at the address.
def Fit (label : Nat → Nat) : Nat → List Inst → Prop
  | _, [] => True
  | here, inst :: code => inst.Fits label here ∧ Fit label (here + 1) code

theorem fit_append {label : Nat → Nat} {here : Nat} {code code' : List Inst} :
    Fit label here (code ++ code') ↔
      Fit label here code ∧ Fit label (here + code.length) code' := by
  induction code generalizing here with
  | nil => simp [Fit]
  | cons inst code ih =>
      simp only [List.cons_append, Fit, ih, and_assoc, List.length_cons]
      rw [Nat.add_assoc, Nat.add_comm 1]

theorem Fit.getElem? {label : Nat → Nat} {here : Nat} {code : List Inst} (h : Fit label here code)
    {i : Nat} {inst : Inst} (hinst : code[i]? = some inst) : inst.Fits label (here + i) := by
  induction code generalizing here i with
  | nil => simp at hinst
  | cons first code ih =>
      cases i with
      | zero =>
          obtain rfl := Option.some.inj hinst
          exact h.1
      | succ i =>
          have hfits := ih h.2 hinst
          rwa [Nat.add_assoc, Nat.add_comm 1] at hfits

-- One labelling up to an address, and another one from there on.
def glue (stop : Nat) (first second : Nat → Nat) (pc : Nat) : Nat :=
  if pc < stop then first pc else second pc

theorem glue_of_lt {stop pc : Nat} {first second : Nat → Nat} (h : pc < stop) :
    glue stop first second pc = first pc := if_pos h

theorem glue_of_le {stop pc : Nat} {first second : Nat → Nat} (h : stop ≤ pc) :
    glue stop first second pc = second pc := if_neg (Nat.not_lt.mpr h)

-- From the beginning of the code to its end the label can fall by `k`, whatever it is at the end.
-- What labels other addresses have makes no difference.
def Lower (here : Nat) (code : List Inst) (k : Nat) : Prop :=
  ∀ v, ∃ label : Nat → Nat, v + k ≤ label here ∧ label (here + code.length) = v ∧
    ∀ label' : Nat → Nat,
      (∀ pc, here ≤ pc → pc ≤ here + code.length → label' pc = label pc) → Fit label' here code

namespace Lower

variable {here k k' : Nat} {code code' : List Inst}

theorem nil (here : Nat) : Lower here [] 0 :=
  fun v => ⟨fun _ => v, Nat.le_refl _, rfl, fun _ _ => trivial⟩

theorem single {inst : Inst}
    (h : ∀ label : Nat → Nat, label here ≤ label (here + 1) + k → inst.Fits label here) :
    Lower here [inst] k := by
  intro v
  refine ⟨glue (here + 1) (fun _ => v + k) (fun _ => v), ?_, ?_, fun label hlabel => ?_⟩
  · exact Nat.le_of_eq (by rw [glue_of_lt (by omega)])
  · rw [List.length_singleton, glue_of_le (Nat.le_refl _)]
  · have hstart := hlabel here (by omega) (by simp)
    have hstop := hlabel (here + 1) (by omega) (by simp)
    rw [glue_of_lt (by omega)] at hstart
    rw [glue_of_le (by omega)] at hstop
    exact ⟨h label (by omega), trivial⟩

theorem append (h : Lower here code k) (h' : Lower (here + code.length) code' k') :
    Lower here (code ++ code') (k + k') := by
  intro v
  obtain ⟨second, hstart', hstop', hfit'⟩ := h' v
  obtain ⟨first, hstart, hstop, hfit⟩ := h (second (here + code.length))
  -- both codes have the address between them
  have hglue : ∀ pc, pc ≤ here + code.length →
      glue (here + code.length) first second pc = first pc := by
    intro pc hle
    rcases Nat.lt_or_eq_of_le hle with hlt | rfl
    · exact glue_of_lt hlt
    · rw [glue_of_le (Nat.le_refl _), hstop]
  refine ⟨glue (here + code.length) first second, ?_, ?_, fun label hlabel => ?_⟩
  · rw [hglue here (by omega)]
    omega
  · rw [List.length_append, ← Nat.add_assoc, glue_of_le (by omega), hstop']
  · rw [List.length_append] at hlabel
    refine fit_append.mpr ⟨hfit label fun pc hle hlt => ?_, hfit' label fun pc hle hlt => ?_⟩
    · rw [hlabel pc hle (by omega), hglue pc hlt]
    · rw [hlabel pc (by omega) (by omega), glue_of_le hle]

-- A way around the code.
theorem option (greedy : Bool) (h : Lower (here + 1) code k) :
    Lower here (Inst.branch greedy (here + 1) (here + 1 + code.length) :: code) 0 := by
  intro v
  obtain ⟨label, hstart, hstop, hfit⟩ := h v
  refine ⟨glue (here + 1) (fun _ => v) label, ?_, ?_, fun label' hlabel => ?_⟩
  · exact Nat.le_of_eq (by rw [glue_of_lt (by omega), Nat.add_zero])
  · rw [List.length_cons, glue_of_le (by omega), Nat.add_comm code.length, ← Nat.add_assoc, hstop]
  · rw [List.length_cons] at hlabel
    have hwithin : ∀ pc, here + 1 ≤ pc → pc ≤ here + 1 + code.length → label' pc = label pc := by
      intro pc hle hlt
      rw [hlabel pc (by omega) (by omega), glue_of_le hle]
    have hhere := hlabel here (by omega) (by omega)
    have hbody := hwithin (here + 1) (by omega) (by omega)
    have hexit := hwithin (here + 1 + code.length) (by omega) (by omega)
    rw [glue_of_lt (by omega)] at hhere
    refine ⟨(Inst.branch_fits greedy).mpr ⟨?_, ?_⟩, hfit label' hwithin⟩ <;> omega

-- A way back from the end of the code to its beginning.
theorem again (greedy : Bool) (h : Lower here code k) :
    Lower here (code ++ [Inst.branch greedy here (here + code.length + 1)]) k := by
  intro v
  obtain ⟨label, hstart, hstop, hfit⟩ := h v
  refine ⟨glue (here + code.length + 1) label (fun _ => v), ?_, ?_, fun label' hlabel => ?_⟩
  · rw [glue_of_lt (by omega)]
    exact hstart
  · rw [List.length_append, List.length_singleton, glue_of_le (by omega)]
  · rw [List.length_append, List.length_singleton] at hlabel
    have hwithin : ∀ pc, here ≤ pc → pc ≤ here + code.length → label' pc = label pc := by
      intro pc hle hlt
      rw [hlabel pc hle (by omega), glue_of_lt (by omega)]
    have hbody := hwithin here (by omega) (by omega)
    have hback := hwithin (here + code.length) (by omega) (by omega)
    have hexit := hlabel (here + code.length + 1) (by omega) (by omega)
    rw [glue_of_le (by omega)] at hexit
    refine fit_append.mpr ⟨hfit label' hwithin, (Inst.branch_fits greedy).mpr ⟨?_, ?_⟩, trivial⟩ <;>
      omega

-- A loop that is entered through a branch. What stands behind the code leads to the branch, or to
-- where the branch leads.
theorem loop (greedy : Bool) {back : Inst}
    (hback : ∀ label : Nat → Nat, label (here + 1 + code.length) ≤ label here →
      label (here + 1 + code.length) ≤ label (here + 1) →
      label (here + 1 + code.length) ≤ label (here + code.length + 2) →
      back.Fits label (here + 1 + code.length))
    (h : Lower (here + 1) code k) :
    Lower here (Inst.branch greedy (here + 1) (here + code.length + 2) :: (code ++ [back])) 0 := by
  intro v
  obtain ⟨label, hstart, hstop, hfit⟩ := h v
  refine ⟨glue (here + 1) (fun _ => v) (glue (here + code.length + 2) label fun _ => v),
    ?_, ?_, fun label' hlabel => ?_⟩
  · exact Nat.le_of_eq (by rw [glue_of_lt (by omega), Nat.add_zero])
  · rw [List.length_cons, List.length_append, List.length_singleton, glue_of_le (by omega),
      glue_of_le (by omega)]
  · rw [List.length_cons, List.length_append, List.length_singleton] at hlabel
    have hwithin : ∀ pc, here + 1 ≤ pc → pc ≤ here + 1 + code.length → label' pc = label pc := by
      intro pc hle hlt
      rw [hlabel pc (by omega) (by omega), glue_of_le hle, glue_of_lt (by omega)]
    have hhere := hlabel here (by omega) (by omega)
    have hbody := hwithin (here + 1) (by omega) (by omega)
    have hend := hwithin (here + 1 + code.length) (by omega) (by omega)
    have hexit := hlabel (here + code.length + 2) (by omega) (by omega)
    rw [glue_of_lt (by omega)] at hhere
    rw [glue_of_le (by omega), glue_of_le (by omega)] at hexit
    refine ⟨(Inst.branch_fits greedy).mpr ⟨?_, ?_⟩, ?_⟩
    · omega
    · omega
    · refine fit_append.mpr ⟨hfit label' hwithin, ?_, trivial⟩
      apply hback <;> omega

-- Either of two codes.
theorem either (h : Lower (here + 1) code k) (h' : Lower (here + code.length + 2) code' k') :
    Lower here (.split (here + 1) (here + code.length + 2) :: (code ++
      .jump (here + code.length + 2 + code'.length) :: code')) (min k k') := by
  intro v
  obtain ⟨first, hstart, hstop, hfit⟩ := h v
  obtain ⟨second, hstart', hstop', hfit'⟩ := h' v
  refine ⟨glue (here + 1) (fun _ => v + min k k') (glue (here + code.length + 2) first second),
    ?_, ?_, fun label hlabel => ?_⟩
  · exact Nat.le_of_eq (by rw [glue_of_lt (by omega)])
  · rw [List.length_cons, List.length_append, List.length_cons, glue_of_le (by omega),
      glue_of_le (by omega), ← hstop']
    congr 1
    omega
  · rw [List.length_cons, List.length_append, List.length_cons] at hlabel
    have hfirst : ∀ pc, here + 1 ≤ pc → pc ≤ here + 1 + code.length → label pc = first pc := by
      intro pc hle hlt
      rw [hlabel pc (by omega) (by omega), glue_of_le hle, glue_of_lt (by omega)]
    have hsecond : ∀ pc, here + code.length + 2 ≤ pc →
        pc ≤ here + code.length + 2 + code'.length → label pc = second pc := by
      intro pc hle hlt
      rw [hlabel pc (by omega) (by omega), glue_of_le (by omega), glue_of_le hle]
    have hhere := hlabel here (by omega) (by omega)
    have hbody := hfirst (here + 1) (by omega) (by omega)
    have hjump := hfirst (here + 1 + code.length) (by omega) (by omega)
    have hbody' := hsecond (here + code.length + 2) (by omega) (by omega)
    have hexit := hsecond (here + code.length + 2 + code'.length) (by omega) (by omega)
    rw [glue_of_lt (by omega)] at hhere
    have hnext : here + 1 + code.length + 1 = here + code.length + 2 := by omega
    refine ⟨⟨?_, ?_⟩, fit_append.mpr ⟨hfit label hfirst, ?_, ?_⟩⟩
    · omega
    · omega
    · change label (here + 1 + code.length) ≤ label _
      omega
    · rw [hnext]
      exact hfit' label hsecond

-- The code of a body that stands at any address.
variable {body : Nat → List Inst} {width : Nat}

theorem length_copies (hwidth : ∀ here, (body here).length = width) (here count : Nat) :
    ((List.range count).flatMap fun i => body (here + i * width)).length = count * width := by
  induction count with
  | zero => simp
  | succ count ih =>
      rw [List.range_succ, List.flatMap_append, List.length_append, ih, List.flatMap_singleton,
        hwidth, Nat.succ_mul]

theorem copies_succ (body : Nat → List Inst) (width here count : Nat) :
    ((List.range (count + 1)).flatMap fun i => body (here + i * width)) =
      body here ++ (List.range count).flatMap fun i => body (here + width + i * width) := by
  rw [List.range_succ_eq_map, List.flatMap_cons, List.flatMap_map, Nat.zero_mul, Nat.add_zero]
  simp only [Nat.succ_mul, Nat.add_assoc, Nat.add_comm width]

-- One after another.
theorem copies (hwidth : ∀ here, (body here).length = width) (h : ∀ here, Lower here (body here) k)
    (here count : Nat) :
    Lower here ((List.range count).flatMap fun i => body (here + i * width)) (k * count) := by
  induction count with
  | zero => exact nil here
  | succ count ih =>
      rw [List.range_succ, List.flatMap_append, List.flatMap_singleton, Nat.mul_succ]
      refine append ih ?_
      rw [length_copies hwidth]
      exact h _

-- A body behind a branch that leads around it, and around all that follows, to the exit.
def optional (greedy : Bool) (exit : Nat) (body : Nat → List Inst) (here : Nat) : List Inst :=
  Inst.branch greedy (here + 1) exit :: body (here + 1)

theorem length_optional (hwidth : ∀ here, (body here).length = width) (greedy : Bool)
    (exit here : Nat) : (optional greedy exit body here).length = width + 1 := by
  rw [optional, List.length_cons, hwidth]

theorem options (hwidth : ∀ here, (body here).length = width)
    (h : ∀ here, Lower here (body here) k) (greedy : Bool) {here exit count : Nat}
    (hexit : here + count * (width + 1) = exit) :
    Lower here ((List.range count).flatMap fun i =>
      optional greedy exit body (here + i * (width + 1))) 0 := by
  induction count generalizing here with
  | zero => exact nil here
  | succ count ih =>
      rw [Nat.succ_mul] at hexit
      have hrest := ih (show here + (width + 1) + count * (width + 1) = exit by omega)
      have hcount := length_copies (length_optional hwidth greedy exit) (here + (width + 1)) count
      have hstart : here + (width + 1) = here + 1 + (body (here + 1)).length := by
        rw [hwidth]
        omega
      have hskip := option greedy (append (h (here + 1)) (hstart ▸ hrest))
      rw [copies_succ]
      rw [← hstart, List.length_append, hwidth, hcount] at hskip
      have hend : here + 1 + (width + count * (width + 1)) = exit := by omega
      rw [hend] at hskip
      exact hskip

end Lower

end StackLexer.Regex
