/-
Loops unrolled. A loop is its own first round and then the same loop again, whatever exits its blocks have. If they have
none of its own, the round can as well run outside of the loop, as the branches of an `if` with the loop behind its body:
nothing in the round, and no function called from it, sees whether a loop is around it.
-/
import Treewalk.Proofs.Composition
import Treewalk.Proofs.Enclosure
import Treewalk.Proofs.Kinship
import Treewalk.Proofs.Legible

namespace Treewalk

/-! ## What is observed -/

/-- A state without the number of its next exit point and without its trace. -/
def State.observed (s : State) : State := { s with nextExit := 0, trace := #[] }

theorem State.observed_eq {s t : State} : t.observed = s.observed ↔
    Akin s t ∧ t.env.flow = s.env.flow ∧ t.env.returnTarget = s.env.returnTarget := by
  obtain ⟨⟨globals, frames, returnTarget, flow⟩, heap, nextExit, output, trace, log⟩ := s
  obtain ⟨⟨globals', frames', returnTarget', flow'⟩, heap', nextExit', output', trace', log'⟩ := t
  constructor
  · intro h
    cases h
    exact ⟨⟨rfl, rfl, rfl, rfl, rfl, rfl⟩, rfl, rfl⟩
  · rintro ⟨⟨rfl, rfl, -, rfl, rfl, rfl⟩, rfl, rfl⟩
    rfl

/-- Interrupts that are alike and carry exit points of the same environment are the same. -/
theorem Interrupt.Alike.eq_of_aimed {i j : Interrupt} {env env' : Environment} (h : i.Alike j) (hi : i.AimedAt env)
    (hj : j.AimedAt env') (hflow : env'.flow = env.flow) (hreturn : env'.returnTarget = env.returnTarget) : j = i := by
  cases h with
  | same => rfl
  | breakLoop =>
    obtain ⟨f, hf, rfl⟩ := hi
    obtain ⟨f', hf', rfl⟩ := hj
    rw [hflow, hf] at hf'
    cases hf'
    rfl
  | continueLoop =>
    obtain ⟨f, hf, rfl⟩ := hi
    obtain ⟨f', hf', rfl⟩ := hj
    rw [hflow, hf] at hf'
    cases hf'
    rfl
  | returnCall =>
    have hboth := hj.symm.trans (hreturn.trans hi)
    cases hboth
    rfl

/-- The same for interrupts that leave a loop, whatever loops are around. -/
theorem Interrupt.Alike.eq_of_leavesLoop {i j : Interrupt} {env env' : Environment} (h : i.Alike j)
    (hi : i.LeavesLoop env) (hj : j.LeavesLoop env') (hreturn : env'.returnTarget = env.returnTarget) : j = i := by
  cases h with
  | same => rfl
  | breakLoop | continueLoop => exact hi.elim
  | returnCall =>
    have hboth := hj.symm.trans (hreturn.trans hi)
    cases hboth
    rfl

namespace Eval

/-- The end of an evaluation as far as it is observed. -/
def observed {α : Type} : EStateM.Result Interrupt State α → EStateM.Result Interrupt State α
  | .ok a s => .ok a s.observed
  | .error i s => .error i s.observed

section

variable {checked : Prop} {live : Address → Prop} {α : Type} {site : Site} {V : α → Prop} {s t : State}

theorem KinAt.observed [Host] {x y : Eval α} (h : KinAt checked live site V x y) (hs : checked → Sound live s)
    (hst : t.observed = s.observed) : observed (y t) = observed (x s) := by
  obtain ⟨hakin, hflow, hreturn⟩ := State.observed_eq.1 hst
  have hend := h s t hs (fun hc => (hs hc).of_akin hakin) ⟨hakin, fun _ => by rw [hflow]⟩
  have hsame : ∀ {s' t'}, site.Leaves s s' → site.Leaves t t' → Akin s' t' → t'.observed = s'.observed := by
    intro s' t' hl hl' hakin'
    refine State.observed_eq.2 ⟨hakin', ?_, ?_⟩
    · rw [hl.flow, hl'.flow, hflow]
    · rw [hl.returnTarget, hl'.returnTarget, hreturn]
  generalize x s = r, y t = r' at hend
  cases hend with
  | ok _ hs' ht' hm' => simp only [Eval.observed, hsame hs'.1 ht'.1 hm'.akin]
  | error hi hs' ht' hm' =>
    simp only [Eval.observed, hsame hs'.2.1 ht'.2.1 hm', hi.eq_of_aimed hs'.1 ht'.1 hflow hreturn]

end

/-! ## Announcements -/

section

variable {settings : Settings} {st : Stmt}

theorem announce_ok (h : settings.tracing = true → st.outline.text?.isSome = true) (s : State) :
    ∃ t, announce settings st s = .ok () t ∧ t.observed = s.observed := by
  unfold announce
  split
  · rename_i htracing
    obtain ⟨text, htext⟩ := Option.isSome_iff_exists.1 (h htracing)
    rw [htext]
    exact ⟨_, rfl, rfl⟩
  · exact ⟨s, rfl, rfl⟩

theorem announce_unwritable (htracing : settings.tracing = true) (h : st.outline.text? = none) (s : State) :
    announce settings st s = .error (.unwritable .digitLimit) s := by
  rw [announce, if_pos htracing, h]
  rfl

/-- Whether a loop has an outline is decided by its parts, and so it is for any other statement with the same ones. -/
theorem text?_branches (label : String) (test : Expr) (body orelse : List Stmt) :
    (Outline.text? (.node label [.mk "test" test.outline, .mk "body" (.list (outlineBlock body)),
        .mk "orelse" (.list (outlineBlock orelse))])).isSome = true ↔
      test.outline.text?.isSome = true ∧ (∀ st ∈ body, st.outline.text?.isSome = true) ∧
        ∀ st ∈ orelse, st.outline.text?.isSome = true := by
  have hblock : ∀ block : List Stmt, (Outline.text? (.list (outlineBlock block))).isSome = true ↔
      ∀ st ∈ block, st.outline.text?.isSome = true := by
    intro block
    rw [Outline.text?_list, Outline.texts?_isSome, outlineBlock_eq, List.forall_mem_map]
  rw [Outline.text?_node, Outline.fieldTexts?_isSome, ← hblock, ← hblock]
  simp only [List.forall_mem_cons, Outline.fieldText?_isSome, List.not_mem_nil, false_imp_iff, implies_true, and_true]

/-- The unrolled loop has an outline exactly if the loop has. -/
theorem text?_unrolled (test : Expr) (body orelse : List Stmt) :
    (Stmt.ifStmt test (body ++ [.whileStmt test body orelse]) orelse).outline.text?.isSome = true ↔
      (Stmt.whileStmt test body orelse).outline.text?.isSome = true := by
  have hif := text?_branches "If" test (body ++ [.whileStmt test body orelse]) orelse
  have hwhile := text?_branches "While" test body orelse
  rw [List.forall_mem_append, List.forall_mem_singleton] at hif
  rw [Stmt.outline, hif]
  constructor
  · rintro ⟨-, ⟨-, hloop⟩, -⟩
    exact hloop
  · intro hloop
    rw [Stmt.outline, hwhile] at hloop
    obtain ⟨htest, hbody, horelse⟩ := hloop
    refine ⟨htest, ⟨hbody, ?_⟩, horelse⟩
    rw [Stmt.outline, hwhile]
    exact ⟨htest, hbody, horelse⟩

end

/-! ## One step of a loop -/

/-- A round of a loop under exit points of its own, and what follows it. If its block ends normally after a test that
held, or if it goes on with the next round, evaluation goes on; if its block ends normally after a test that failed, or
if it leaves the loop, that is the end; and everything else passes. Behind the round the exits of the loop around are
current again. -/
def unfolded (test : Eval Bool) (body orelse again : Eval Unit) : Eval Unit := fun s =>
  match turn test body orelse (roundState ⟨"break", s.nextExit⟩ { s with nextExit := s.nextExit + 1 }) with
  | .ok true s' | .error (.continueLoop _) s' => again (s'.setFlow s.env.flow)
  | .ok false s' | .error (.breakLoop _) s' => .ok () (s'.setFlow s.env.flow)
  | .error i s' => .error i (s'.setFlow s.env.flow)

/-- An evaluation that ended because a loop had used up its rounds. -/
def Stalled {α : Type} (r : EStateM.Result Interrupt State α) : Prop := ∃ s, r = .error .stalled s

instance {α : Type} : (r : EStateM.Result Interrupt State α) → Decidable (Stalled r)
  | .error .stalled s => isTrue ⟨s, rfl⟩
  | .ok _ _ | .error (.error _) _ | .error (.unwritable _) _ | .error (.breakLoop _) _ | .error (.continueLoop _) _
  | .error (.returnCall _ _) _ | .error .overflow _ => isFalse nofun

section

variable {test : Eval Bool} {body orelse : Eval Unit} {sur : Surroundings} {live : Address → Prop}

/-- The rounds of a loop are observed alike whatever the exit point that leaves the loop. -/
theorem rounds_observed [Host]
    (h : KinAt False live (.block sur.loopBody) (fun _ => True) (turn test body orelse) (turn test body orelse))
    (b b' : ExitPoint) (flow : Option Flow) (limit : Nat) {s t : State} (hst : Akin s t)
    (hreturn : t.env.returnTarget = s.env.returnTarget) :
    observed (afterwards (rounds b test body orelse limit) (·.setFlow flow) s) =
      observed (afterwards (rounds b' test body orelse limit) (·.setFlow flow) t) := by
  have hend := kin_rounds h b b' limit s t nofun nofun hst
  have hsame : ∀ {s' t'}, Confined s s' → Confined t t' → Akin s' t' →
      (s'.setFlow flow).observed = (t'.setFlow flow).observed := by
    intro s' t' hc hc' hakin
    refine (State.observed_eq.2 ⟨hakin.setFlow flow flow, rfl, ?_⟩).symm
    show t'.env.returnTarget = s'.env.returnTarget
    rw [hc.returnTarget, hc'.returnTarget, hreturn]
  generalize hr : rounds b test body orelse limit s = r, hr' : rounds b' test body orelse limit t = r' at hend
  cases hend with
  | ok _ hs' ht' hm' =>
    rw [afterwards_ok hr, afterwards_ok hr']
    simp only [observed, hsame hs'.1 ht'.1 hm']
  | error hi hs' ht' hm' =>
    rw [afterwards_error hr, afterwards_error hr']
    obtain ⟨ha, hc, -⟩ := hs'
    obtain ⟨ha', hc', -⟩ := ht'
    simp only [observed, hsame hc hc' hm', hi.eq_of_leavesLoop ha ha' hreturn]

theorem rounds_last {b : ExitPoint} (limit : Nat) {s s' : State} (h : round b test body orelse s = .ok false s') :
    rounds b test body orelse (limit + 1) s = .ok () s' := by
  rw [rounds, bind_ok h]
  rfl

theorem rounds_next {b : ExitPoint} (limit : Nat) {s s' : State} (h : round b test body orelse s = .ok true s') :
    rounds b test body orelse (limit + 1) s = rounds b test body orelse limit s' := by
  rw [rounds, bind_ok h]
  rfl

theorem rounds_error {b : ExitPoint} (limit : Nat) {i : Interrupt} {s s' : State}
    (h : round b test body orelse s = .error i s') : rounds b test body orelse (limit + 1) s = .error i s' := by
  rw [rounds, bind_error h]

/-- A loop with a round to spare is its first round and then the same loop again. -/
theorem loop_observed [Host]
    (h : KinAt False live (.block sur.loopBody) (fun _ => True) (turn test body orelse) (turn test body orelse))
    (limit : Nat) (s : State) :
    observed (loop (limit + 1) test body orelse s) =
      observed (unfolded test body orelse (loop limit test body orelse) s) := by
  let b : ExitPoint := ⟨"break", s.nextExit⟩
  let start : State := { s with nextExit := s.nextExit + 1 }
  let first : State := roundState b start
  have hturn := h first first nofun nofun ⟨.refl _, fun _ => rfl⟩
  have hround : round b test body orelse start = _ := round_caught hturn.aimed.1
  have hunfolded : unfolded test body orelse (loop limit test body orelse) s = match turn test body orelse first with
      | .ok true s' | .error (.continueLoop _) s' => loop limit test body orelse (s'.setFlow s.env.flow)
      | .ok false s' | .error (.breakLoop _) s' => .ok () (s'.setFlow s.env.flow)
      | .error i s' => .error i (s'.setFlow s.env.flow) := rfl
  rw [loop_apply, hunfolded]
  -- Where another round follows, it has the old exit point that leaves the loop, and the loop again has a new one.
  have hnext : ∀ s', round b test body orelse start = .ok true s' →
      observed (afterwards (rounds b test body orelse (limit + 1)) (·.setFlow s.env.flow) start) =
        observed (loop limit test body orelse (s'.setFlow s.env.flow)) := by
    intro s' hs'
    have hsame : afterwards (rounds b test body orelse (limit + 1)) (·.setFlow s.env.flow) start =
        afterwards (rounds b test body orelse limit) (·.setFlow s.env.flow) s' := by
      unfold afterwards
      rw [rounds_next limit hs']
    rw [hsame]
    exact rounds_observed h b _ s.env.flow limit ⟨rfl, rfl, rfl, rfl, rfl, rfl⟩ rfl
  have hlast : ∀ s', round b test body orelse start = .ok false s' →
      afterwards (rounds b test body orelse (limit + 1)) (·.setFlow s.env.flow) start = .ok () (s'.setFlow s.env.flow) :=
    fun s' hs' => afterwards_ok (rounds_last limit hs')
  have hpassed : ∀ i s', round b test body orelse start = .error i s' →
      afterwards (rounds b test body orelse (limit + 1)) (·.setFlow s.env.flow) start =
        .error i (s'.setFlow s.env.flow) :=
    fun i s' hs' => afterwards_error (rounds_error limit hs')
  cases hr : turn test body orelse first with
  | ok again s' =>
    rw [hr] at hround
    cases again with
    | true => exact hnext s' hround
    | false => exact congrArg observed (hlast s' hround)
  | error i s' =>
    rw [hr] at hround
    cases i with
    | continueLoop _ => exact hnext s' hround
    | breakLoop _ => exact congrArg observed (hlast s' hround)
    | error _ | unwritable _ | returnCall _ _ | overflow | stalled => exact congrArg observed (hpassed _ s' hround)

/-- More rounds change nothing for rounds that do not stall. -/
theorem rounds_succ (b : ExitPoint) : ∀ (limit : Nat) (s : State), ¬ Stalled (rounds b test body orelse limit s) →
    rounds b test body orelse (limit + 1) s = rounds b test body orelse limit s
  | 0, s, h => absurd ⟨s, rfl⟩ h
  | limit + 1, s, h => by
    cases hr : round b test body orelse s with
    | error i s' => rw [rounds_error _ hr, rounds_error _ hr]
    | ok again s' =>
      cases again with
      | false => rw [rounds_last _ hr, rounds_last _ hr]
      | true =>
        rw [rounds_next _ hr] at h
        rw [rounds_next _ hr, rounds_next _ hr]
        exact rounds_succ b limit s' h

theorem loop_succ {limit : Nat} {s : State} (h : ¬ Stalled (loop limit test body orelse s)) :
    loop (limit + 1) test body orelse s = loop limit test body orelse s := by
  rw [loop_apply] at h
  rw [loop_apply, loop_apply]
  have hrounds : ¬ Stalled (rounds ⟨"break", s.nextExit⟩ test body orelse limit { s with nextExit := s.nextExit + 1 }) :=
    fun ⟨s', hs'⟩ => h ⟨_, afterwards_error hs'⟩
  unfold afterwards
  rw [rounds_succ _ limit _ hrounds]

end

end Eval

/-! ## The exits of a loop -/

/-- A `break` or `continue` that stands in a block of a loop and belongs to this loop: inside the block, no other loop
and no function or class is around it. -/
def Spot.Leaves (spot : Spot) : Prop :=
  (∃ exit ∈ spot.stmt.exit?, exit.1 ≠ .returnCall) ∧ ∀ e ∈ spot.around, e = .plain

instance (spot : Spot) : Decidable spot.Leaves :=
  inferInstanceAs (Decidable ((∃ exit ∈ spot.stmt.exit?, exit.1 ≠ .returnCall) ∧ ∀ e ∈ spot.around, e = .plain))

/-- A block of a loop without exits of this loop. -/
def NoExits (block : List Stmt) : Prop := ∀ spot ∈ blockSpots [] block, ¬ spot.Leaves

instance (block : List Stmt) : Decidable (NoExits block) :=
  inferInstanceAs (Decidable (∀ spot ∈ blockSpots [] block, ¬ spot.Leaves))

def Spot.within (spot : Spot) (outer : List Enclosure) : Spot := ⟨spot.stmt, spot.around ++ outer⟩

-- The blocks inside a statement are entered from the same list, with whatever stands further out.
mutual

theorem innerSpots_append (outer : List Enclosure) : ∀ (around : List Enclosure) (st : Stmt),
    innerSpots (around ++ outer) st = (innerSpots around st).map (·.within outer)
  | around, .functionDef _ _ _ body _ _ => by
    rw [innerSpots, innerSpots]
    exact blockSpots_append outer (.function :: around) body
  | around, .classDef _ _ _ body _ => by
    rw [innerSpots, innerSpots]
    exact blockSpots_append outer (.cls :: around) body
  | around, .whileStmt _ body orelse => by
    rw [innerSpots, innerSpots, List.map_append, ← blockSpots_append outer (.loop :: around),
      ← blockSpots_append outer (.loop :: around), List.cons_append]
  | around, .forStmt false _ _ body orelse => by
    rw [innerSpots, innerSpots, List.map_append, ← blockSpots_append outer (.loop :: around),
      ← blockSpots_append outer (.plain :: around), List.cons_append, List.cons_append]
  | around, .forStmt true _ _ body orelse | around, .ifStmt _ body orelse => by
    rw [innerSpots, innerSpots, List.map_append, ← blockSpots_append outer (.plain :: around),
      ← blockSpots_append outer (.plain :: around), List.cons_append]
  | around, .withStmt _ _ body => by
    rw [innerSpots, innerSpots]
    exact blockSpots_append outer (.plain :: around) body
  | around, .tryStmt _ body handlers orelse final => by
    rw [innerSpots, innerSpots, List.map_append, List.map_append, List.map_append,
      ← blockSpots_append outer (.plain :: around), ← handlerSpots_append outer (.plain :: around),
      ← blockSpots_append outer (.plain :: around), ← blockSpots_append outer (.plain :: around), List.cons_append]
  | around, .matchStmt _ cases => by
    rw [innerSpots, innerSpots]
    exact caseSpots_append outer (.plain :: around) cases
  | _, .expr .. | _, .pass | _, .assert .. | _, .assign .. | _, .augAssign .. | _, .annAssign .. | _, .delete ..
  | _, .raise .. | _, .importNames .. | _, .importFrom .. | _, .globalNames .. | _, .nonlocalNames .. | _, .breakStmt _
  | _, .continueStmt _ | _, .returnStmt .. => by
    simp only [innerSpots, List.map_nil]

theorem blockSpots_append (outer : List Enclosure) : ∀ (around : List Enclosure) (body : List Stmt),
    blockSpots (around ++ outer) body = (blockSpots around body).map (·.within outer)
  | _, [] => by simp only [blockSpots, List.map_nil]
  | around, st :: rest => by
    rw [blockSpots, blockSpots, innerSpots_append outer around st, blockSpots_append outer around rest, List.map_cons,
      List.map_append]
    rfl

theorem handlerSpots_append (outer : List Enclosure) : ∀ (around : List Enclosure) (handlers : List Handler),
    handlerSpots (around ++ outer) handlers = (handlerSpots around handlers).map (·.within outer)
  | _, [] => by simp only [handlerSpots, List.map_nil]
  | around, .mk _ _ body :: rest => by
    rw [handlerSpots, handlerSpots, blockSpots_append outer around body, handlerSpots_append outer around rest,
      List.map_append]

theorem caseSpots_append (outer : List Enclosure) : ∀ (around : List Enclosure) (cases : List Case),
    caseSpots (around ++ outer) cases = (caseSpots around cases).map (·.within outer)
  | _, [] => by simp only [caseSpots, List.map_nil]
  | around, .mk _ _ body :: rest => by
    rw [caseSpots, caseSpots, blockSpots_append outer around body, caseSpots_append outer around rest, List.map_append]

end

/-- A spot that stands well in a loop and is no exit of it stands well outside of it, too. -/
theorem Spot.placed_outside {spot : Spot} {outer : List Enclosure} (h : (spot.within (.loop :: outer)).Placed)
    (hleaves : ¬ spot.Leaves) : (spot.within outer).Placed := by
  intro exit line hexit
  have hstands := h exit line hexit
  have hloop : exit ≠ .returnCall → (spot.around ++ .loop :: outer).find? (· ≠ .plain) = some .loop →
      (spot.around ++ outer).find? (· ≠ .plain) = some .loop := by
    intro hne hfound
    -- An exit of a loop that is not one of this loop meets another loop, or a function or class, before.
    have hmet : spot.around.find? (· ≠ .plain) ≠ none := fun hnone => hleaves ⟨⟨_, hexit, hne⟩, fun e he => by
      simpa using List.find?_eq_none.1 hnone e he⟩
    obtain ⟨e, he⟩ := Option.ne_none_iff_exists'.1 hmet
    rw [List.find?_append, he] at hfound ⊢
    exact hfound
  have hfunction : (spot.around ++ .loop :: outer).find? (fun e => e = .function ∨ e = .cls) =
      (spot.around ++ outer).find? (fun e => e = .function ∨ e = .cls) := by
    rw [List.find?_append, List.find?_append]
    rfl
  cases exit with
  | breakLoop => exact hloop nofun hstands
  | continueLoop => exact hloop nofun hstands
  | returnCall => exact hfunction.symm.trans hstands

theorem accepted_inside {outer : List Enclosure} {body : List Stmt} :
    Accepted (.inside outer) body ↔ ∀ spot ∈ blockSpots [] body, (spot.within outer).Placed := by
  have hspots : blockSpots outer body = (blockSpots [] body).map (·.within outer) := blockSpots_append outer [] body
  have hcheck : Accepted (.inside outer) body ↔ checkBlock "" (.inside outer) body = .ok () := accepted_iff
  rw [hcheck, checkBlock_eq, checkSpots_ok, hspots, List.forall_mem_map]

/-- A block without exits of the loop it stands in passes the check without the loop. -/
theorem Accepted.outside {sur : Surroundings} {body : List Stmt} (h : Accepted sur.loopBody body)
    (hbody : NoExits body) : Accepted { sur with inLoop := false } body := by
  have hout : ∀ outer : List Enclosure, Accepted (.inside (.loop :: outer)) body → Accepted (.inside outer) body := by
    intro outer hin
    refine accepted_inside.2 fun spot hspot => ?_
    exact Spot.placed_outside (accepted_inside.1 hin spot hspot) (hbody spot hspot)
  obtain ⟨inLoop, inFunction⟩ := sur
  cases inFunction with
  | true => exact hout [.function] h
  | false => exact hout [] h

namespace Eval

/-! ## Unrolled loops -/

/-- A `while` statement that is announced and then executed with a limit of its own on its rounds. -/
def whileFor [Host] (limit : Nat) (settings : Settings) (call : Caller) (test : Expr) (body orelse : List Stmt) :
    Eval Unit := do
  announce settings (.whileStmt test body orelse)
  loop limit (do truth (← expr call test)) (block settings call body) (block settings call orelse)

section

variable {settings : Settings} {call : Caller} {test : Expr} {body orelse : List Stmt}

theorem block_singleton [Host] (st : Stmt) :
    block settings call [st] = announce settings st >>= fun _ => stmt settings call st := by
  rw [block, block]
  exact congrArg _ (funext fun _ => bind_pure_unit)

theorem block_while [Host] : block settings call [.whileStmt test body orelse] =
    whileFor settings.rounds settings call test body orelse := by
  rw [block_singleton, stmt, whileFor]

theorem stmt_unrolled [Host] : stmt settings call (.ifStmt test (body ++ [.whileStmt test body orelse]) orelse) =
    turn (do truth (← expr call test)) (block settings call body) (block settings call orelse) >>= fun again =>
      if again then whileFor settings.rounds settings call test body orelse else pure () := by
  simp only [stmt, turn, block_append, block_while, bind_assoc]
  refine congrArg _ (funext fun v => congrArg _ (funext fun b => ?_))
  cases b with
  | true => simp
  | false => simp

end

/-- A round that cannot leave the loop is observed alike in the loop and outside of it. -/
theorem unfolded_observed [Host] {test : Eval Bool} {body orelse again again' : Eval Unit} {sur : Surroundings}
    {live : Address → Prop} (hsur : sur.inLoop = false)
    (h : KinAt True live (.block sur) (fun _ => True) (turn test body orelse) (turn test body orelse))
    (hagain : ∀ {s t : State}, t.observed = s.observed → observed (again' t) = observed (again s)) {s t : State}
    (hs : Sound live s) (hst : t.observed = s.observed) :
    observed ((turn test body orelse >>= fun more => if more then again' else pure () : Eval Unit) t) =
      observed (unfolded test body orelse again s) := by
  obtain ⟨hakin, hflow, hreturn⟩ := State.observed_eq.1 hst
  let first : State := roundState ⟨"break", s.nextExit⟩ { s with nextExit := s.nextExit + 1 }
  have hfirst : Akin first t := ⟨hakin.globals, hakin.frames, hakin.returns, hakin.heap, hakin.output, hakin.log⟩
  have hno : ¬ sur.inLoop = true := by
    rw [hsur]
    nofun
  have hend := h first t (fun _ => hs.quiet rfl rfl rfl) (fun _ => hs.of_akin hakin)
    ⟨hfirst, fun hin => absurd (hin trivial) hno⟩
  have hsame : ∀ {s' t'}, Confined first s' → Site.Leaves (.block sur) t t' → Akin s' t' →
      t'.observed = (s'.setFlow s.env.flow).observed := by
    intro s' t' hc hl' hakin'
    refine State.observed_eq.2 ⟨hakin'.setFlow s.env.flow t'.env.flow, hl'.flow.trans hflow, ?_⟩
    show t'.env.returnTarget = s'.env.returnTarget
    rw [hl'.returnTarget, hc.returnTarget, hreturn]
    rfl
  have hunfolded : unfolded test body orelse again s = match turn test body orelse first with
      | .ok true s' | .error (.continueLoop _) s' => again (s'.setFlow s.env.flow)
      | .ok false s' | .error (.breakLoop _) s' => .ok () (s'.setFlow s.env.flow)
      | .error i s' => .error i (s'.setFlow s.env.flow) := rfl
  rw [hunfolded]
  generalize turn test body orelse first = r, hr' : turn test body orelse t = r' at hend
  cases hend with
  | @ok more s' t' _ hs' ht' hm' =>
    rw [bind_ok hr']
    have hobserved := hsame hs'.1.1 ht'.1 hm'.akin
    cases more with
    | true => exact hagain hobserved
    | false => exact congrArg (EStateM.Result.ok ()) hobserved
  | @error i j s' t' hi hs' ht' hm' =>
    rw [bind_error hr']
    obtain ⟨ha, hl, hp⟩ := hs'
    obtain ⟨ha', hl', hp'⟩ := ht'
    have hpassed : i.endsRound = false := by
      cases hround : i.endsRound with
      | false => rfl
      | true => exact absurd ((hp trivial).inLoop hround) hno
    have hpassed' : j.endsRound = false := by
      cases hround : j.endsRound with
      | false => rfl
      | true => exact absurd ((hp' trivial).inLoop hround) hno
    have hij : j = i :=
      hi.eq_of_leavesLoop (ha.leavesLoop rfl hpassed) (ha'.leavesLoop rfl hpassed') hreturn
    have hobserved := hsame hl.1 hl' hm'
    subst hij
    cases j with
    | breakLoop _ | continueLoop _ => cases hpassed
    | error _ | unwritable _ | returnCall _ _ | overflow | stalled =>
      exact congrArg (EStateM.Result.error _) hobserved

end Eval

/-- The values of the global names and of the names in every frame. -/
def State.Refers (s : State) (v : Value) : Prop :=
  s.world.Bound v ∨ ∃ frame ∈ s.env.frames, ∃ name, frame.own.get? name = some v

/-- Everything that can be reached from the names of a state is checked, if it is a function. -/
def State.BodiesChecked (s : State) : Prop := ∀ v, Reachable s.heap s.Refers v → v.BodyChecked

theorem State.BodiesChecked.sound [Host] {s : State} (h : s.BodiesChecked) : Eval.Sound (Live s.heap s.Refers) s := by
  have hfit : ∀ v, Reachable s.heap s.Refers v → Standard.bodies.fits v := h
  refine ⟨nofun, ⟨fun name v hv => ?_, fun frame hframe name v hv => ?_⟩, Standard.heapOk_of_reachable hfit⟩
  · exact Standard.good_of_reachable hfit (.root (.inl ⟨name, hv⟩))
  · exact Standard.good_of_reachable hfit (.root (.inr ⟨frame, hframe, name, hv⟩))

namespace Eval

variable {settings : Settings} {depth : Nat} {test : Expr} {body orelse : List Stmt}

/-- Any loop keeps runs together, whatever exit points are current. -/
theorem kin_whileTurn [Host] (sur : Surroundings) :
    KinAt False (fun _ => True) (.block sur) (fun _ => True)
      (turn (do truth (← expr (invoke settings depth) test)) (block settings (invoke settings depth) body)
        (block settings (invoke settings depth) orelse))
      (turn (do truth (← expr (invoke settings depth) test)) (block settings (invoke settings depth) body)
        (block settings (invoke settings depth) orelse)) := by
  let D := kinship settings False fun _ => True
  have hcalls := D.invoke depth
  exact kin_turn (D.test hcalls test) (D.block hcalls sur body False.elim) (D.block hcalls sur orelse False.elim)

/-- A loop without exits of its own, with a round more than the settings allow, is observed like the loop unrolled. -/
theorem whileFor_unrolled [Host] {sur : Surroundings} {s : State} (hloop : AcceptedStmt sur (.whileStmt test body orelse))
    (hbody : NoExits body) (horelse : NoExits orelse) (hs : s.BodiesChecked) :
    observed (whileFor (settings.rounds + 1) settings (invoke settings depth) test body orelse s) =
      observed (block settings (invoke settings depth)
        [.ifStmt test (body ++ [.whileStmt test body orelse]) orelse] s) := by
  let call := invoke settings depth
  let condition : Eval Bool := do truth (← expr call test)
  let again : Eval Unit := loop settings.rounds condition (block settings call body) (block settings call orelse)
  rw [block_singleton, whileFor, stmt_unrolled]
  have hsame := text?_unrolled test body orelse
  by_cases hwritten : settings.tracing = true → (Stmt.whileStmt test body orelse).outline.text?.isSome = true
  · have hagain : ∀ {u v : State}, v.observed = u.observed →
        observed (whileFor settings.rounds settings call test body orelse v) = observed (again u) := by
      intro u v huv
      obtain ⟨w, hw, hvw⟩ := announce_ok hwritten v
      rw [whileFor, bind_ok hw]
      exact KinAt.observed (kin_loop (kin_whileTurn sur.loopBody)) nofun (hvw.trans huv)
    obtain ⟨t, ht, hst⟩ := announce_ok hwritten s
    obtain ⟨t', ht', hst'⟩ := announce_ok (fun h => hsame.2 (hwritten h)) s
    rw [bind_ok ht, bind_ok ht', loop_observed (kin_whileTurn sur.loopBody) settings.rounds t]
    -- Outside of the loop the blocks pass the check as well, so that no exit can arise in them.
    let outside : Surroundings := { sur with inLoop := false }
    let D := kinship settings True (Live s.heap s.Refers)
    have hcalls := D.invoke depth
    obtain ⟨hin, hin'⟩ := hloop.loopBlocks
    have hturn := kin_turn (D.test hcalls test) (D.block hcalls outside body fun _ => hin.outside hbody)
      (D.block hcalls outside orelse fun _ => hin'.outside horelse)
    have hsound : Sound (Live s.heap s.Refers) t := hs.sound.of_akin (State.observed_eq.1 hst).1
    exact (unfolded_observed rfl hturn hagain hsound (hst'.trans hst.symm)).symm
  · obtain ⟨htracing, htext⟩ := Classical.not_imp.1 hwritten
    have htext' := mt hsame.1 htext
    rw [Option.not_isSome_iff_eq_none] at htext htext'
    rw [bind_error (announce_unwritable htracing htext s), bind_error (announce_unwritable htracing htext' s)]

theorem whileFor_succ [Host] {limit : Nat} {call : Caller} {s : State}
    (h : ¬ Stalled (whileFor limit settings call test body orelse s)) :
    whileFor (limit + 1) settings call test body orelse s = whileFor limit settings call test body orelse s := by
  unfold whileFor at h ⊢
  cases hr : announce settings (.whileStmt test body orelse) s with
  | error i s' => rw [bind_error hr, bind_error hr]
  | ok _ s' =>
    rw [bind_ok hr] at h
    rw [bind_ok hr, bind_ok hr]
    exact loop_succ h

/-- Unrolling a loop preserves its meaning. For a loop that passes the check and has no exits of its own, in a state with
checked functions, the loop and the `if` that has the loop behind its body end alike and in the same state, up to the
trace and to the numbers of exit points: always if the loop is given one round more, and without it if the loop does not
use up its rounds. And any loop at all, with exits or without, is its first round and then the same loop again. -/
theorem while_unrolled [Host] (settings : Settings) (depth : Nat) (test : Expr) (body orelse : List Stmt) (s : State) :
    let call := invoke settings depth
    let again := Stmt.whileStmt test body orelse
    let unrolled := Stmt.ifStmt test (body ++ [again]) orelse
    let step : Eval Unit → Eval Unit :=
      unfolded (do truth (← expr call test)) (block settings call body) (block settings call orelse)
    let limited (limit : Nat) : Eval Unit :=
      loop limit (do truth (← expr call test)) (block settings call body) (block settings call orelse)
    (∀ sur, AcceptedStmt sur again → NoExits body → NoExits orelse → s.BodiesChecked →
      observed (whileFor (settings.rounds + 1) settings call test body orelse s) =
          observed (block settings call [unrolled] s) ∧
        (¬ Stalled (block settings call [again] s) →
          observed (block settings call [again] s) = observed (block settings call [unrolled] s))) ∧
      (∀ limit, observed (limited (limit + 1) s) = observed (step (limited limit) s)) ∧
      (¬ Stalled (stmt settings call again s) →
        observed (stmt settings call again s) = observed (step (stmt settings call again) s)) := by
  intro call again unrolled step limited
  have hunfolded : ∀ limit, observed (limited (limit + 1) s) = observed (step (limited limit) s) := fun limit =>
    loop_observed (kin_whileTurn (Surroundings.loopBody .outermost)) limit s
  have hstmt : stmt settings call again = limited settings.rounds := by
    show stmt settings call (.whileStmt test body orelse) = _
    rw [stmt]
  refine ⟨fun sur hloop hbody horelse hs => ?_, hunfolded, fun hended => ?_⟩
  · have hlonger : observed (whileFor (settings.rounds + 1) settings call test body orelse s) =
        observed (block settings call [unrolled] s) := whileFor_unrolled hloop hbody horelse hs
    refine ⟨hlonger, fun hended => ?_⟩
    rw [show block settings call [again] = _ from block_while] at hended ⊢
    rw [← whileFor_succ hended]
    exact hlonger
  · rw [hstmt] at hended ⊢
    rw [← hunfolded, show limited (settings.rounds + 1) s = limited settings.rounds s from loop_succ hended]

end Eval

/-- The body of a loop that ends after one round, with a loop inside that is left by a `break`. -/
def sampleRound : List Stmt :=
  [.whileStmt (.name "f" .load) [.breakStmt none] [],
    .classDef "D" [] [] [.pass] [],
    .assign [.name "f" .store] (.constant (.int 0) none)]

theorem sampleElsewhere_bodiesChecked : sampleElsewhere.BodiesChecked := by
  intro v hv
  have hgood : Standard.proper.Good (fun _ => True) v := by
    refine Standard.reachable_good sampleWorld_good.2 ?_ hv
    rintro v (⟨name, hbound⟩ | ⟨frame, hframe, name, hbound⟩)
    · exact sampleWorld_good.1 name v hbound
    · have hall : frame.own.All (Standard.proper.Good fun _ => True) := by
        rcases List.mem_cons.1 hframe with rfl | hframe
        · exact .ofList fun entry he => List.mem_singleton.1 he ▸ Standard.good_scalar rfl
        · cases List.mem_singleton.1 hframe
          exact .ofList fun entry he => List.mem_singleton.1 he ▸ Standard.good_scalar rfl
      exact hall name v hbound
  exact hgood.here.bodyChecked

section

attribute [local instance] Host.standard

/-- A loop in the body of a class, in a call in a loop; and a loop there that goes on from its body and is left from its
`else` block. -/
theorem while_unrolled_sample :
    let settings : Settings := ⟨true, 3, 2⟩
    let call := Eval.invoke settings 2
    let leaving : List Stmt := [.assign [.name "f" .store] (.constant (.int 0) none), .continueStmt none]
    NoExits sampleRound ∧ sampleElsewhere.BodiesChecked ∧
      Eval.observed (Eval.block settings call [.whileStmt (.name "f" .load) sampleRound []] sampleElsewhere) =
        Eval.observed (Eval.block settings call
          [.ifStmt (.name "f" .load) (sampleRound ++ [.whileStmt (.name "f" .load) sampleRound []]) []]
          sampleElsewhere) ∧
      ¬ NoExits leaving ∧
      Eval.observed (Eval.stmt settings call (.whileStmt (.name "f" .load) leaving [.breakStmt none]) sampleElsewhere) =
        Eval.observed (Eval.unfolded (do Eval.truth (← Eval.expr call (.name "f" .load)))
          (Eval.block settings call leaving) (Eval.block settings call [.breakStmt none])
          (Eval.stmt settings call (.whileStmt (.name "f" .load) leaving [.breakStmt none])) sampleElsewhere) := by
  intro settings call leaving
  have hbody : NoExits sampleRound := by decide +kernel
  have hleaving : ¬ NoExits leaving := by decide +kernel
  have hchecked : AcceptedStmt .outermost (.whileStmt (.name "f" .load) sampleRound []) := fun _ => rfl
  obtain ⟨hloop, -, -⟩ := Eval.while_unrolled settings 2 (.name "f" .load) sampleRound [] sampleElsewhere
  obtain ⟨-, hsame⟩ := hloop .outermost hchecked hbody nofun sampleElsewhere_bodiesChecked
  obtain ⟨-, -, hstep⟩ := Eval.while_unrolled settings 2 (.name "f" .load) leaving [.breakStmt none] sampleElsewhere
  exact ⟨hbody, sampleElsewhere_bodiesChecked, hsame (by decide +kernel), hleaving, hstep (by decide +kernel)⟩

end

end Treewalk
