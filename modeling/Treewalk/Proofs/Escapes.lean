/-
How a run of a program text can end. Apart from a loop that is cut off, a run ends by itself, with or without an error
of the program, with two exceptions. The program may be too deep for the check of its exits, which has the frames that
the host leaves for it. And a text may be missing; then the journal of the run ends with what that text was asked for:
something with an integer past the digit limit, a target with a formatted string in it that cannot be written without a
backslash, or something to be printed that the output refuses. An operator without a spelling is never the reason, since
no program text puts an operator in a form of another kind, and so no function that a run leaves behind does.
-/
import Treewalk.Proofs.Bookkeeping
import Treewalk.Proofs.Parsed
import Treewalk.Proofs.Rendering
import Treewalk.Proofs.Visits

namespace Treewalk

/-! ## Texts that are asked for in a run -/

/-- Statements without a target that has no spelling, with all that is inside them. -/
def Norm.spelled : Norm where
  Fine := Stmt.Spelled
  inside := Stmt.Spelled.inside

namespace Rendering

/-- The text would show an integer past the digit limit. -/
def Long (r : Rendering) : Prop := ∃ n, r.Shows n ∧ Integer.hasText n = false

/-- The text would show a target with a formatted string in it, and a backslash in one of its values. -/
def Backslashed (r : Rendering) : Prop :=
  ∃ e ∈ r.targets, ∃ value conversion spec text, (Expr.formatted value conversion spec).Part e ∧
    value.source true (.within .or) = .ok text ∧ CodePoint.ofChar '\\' ∈ text.points

theorem spelled_targets {r : Rendering} (h : (Note.asking r).Meets .spelled) : ∀ e ∈ r.targets, e.Spelled := by
  intro e he
  cases r with
  | target e' =>
    obtain ⟨st, hst, hmem⟩ := h
    exact List.mem_singleton.1 he ▸ hst st .self e' hmem
  | deletion targets => exact h (.delete targets) .self e he
  | printed _ | uncallable _ | compared _ _ _ | constant _ | outline _ => cases he

/-- What a missing text was needed for, by the reason that is given. -/
def Excuses [Host] (r : Rendering) : Unwritable → Prop
  | .digitLimit => r.Long
  | .backslash => r.Backslashed
  | .refused complaint => r.Refused complaint
  | .operator => False

/-- With all operators in forms of their own, there are three reasons for a missing text. -/
theorem excuses [Host] {r : Rendering} {cause : Unwritable} (h : r.fault? = some cause)
    (hmeets : (Note.asking r).Meets .spelled) : r.Excuses cause := by
  cases cause with
  | digitLimit => exact shows_of_digitLimit h
  | backslash =>
    obtain ⟨e, he, hhindered⟩ := hindered_of_fault h nofun nofun
    exact ⟨e, he, hhindered.backslash⟩
  | operator =>
    obtain ⟨e, he, hhindered⟩ := hindered_of_fault h nofun nofun
    exact absurd hhindered (spelled_targets hmeets e he)
  | refused complaint => exact refused_of_fault h

/-- The text needs no integer past the digit limit and no backslash in a formatted string, and the output takes it. -/
def Plain [Host] (r : Rendering) : Prop := ¬ r.Long ∧ ¬ r.Backslashed ∧ ∀ complaint, ¬ r.Refused complaint

theorem Plain.not_excuses [Host] {r : Rendering} (h : r.Plain) (cause : Unwritable) : ¬ r.Excuses cause := by
  cases cause with
  | digitLimit => exact h.1
  | backslash => exact h.2.1
  | operator => exact id
  | refused complaint => exact h.2.2 complaint

end Rendering

/-! ## Endings -/

/-- The run ended by itself, with or without an error of the program, or it went on until it was cut off. -/
def Ending.Regular : Ending → Prop
  | .finished | .failed _ | .stalled => True
  | .unwritable _ | .nullCharacter | .uncheckable => False

/-- How an execution may end by what is noted on its way. -/
def Ending.Explained [Host] (notes : List Note) (ending : Ending) : Prop :=
  ending.Regular ∨ ∃ cause r, ending = .unwritable cause ∧ notes.getLast? = some (.asking r) ∧ r.Excuses cause

theorem Ending.Explained.regular [Host] {notes : List Note} {ending : Ending} (h : ending.Explained notes)
    (hnotes : ∀ r, .asking r ∈ notes → r.Plain) : ending.Regular := by
  rcases h with hregular | ⟨cause, r, -, hlast, hexcuses⟩
  · exact hregular
  · exact absurd hexcuses ((hnotes r (List.mem_of_getLast? hlast)).not_excuses cause)

theorem runModule_explained [Host] (settings : Settings) {body : List Stmt} (hbody : ∀ st ∈ body, st.Spelled)
    {live : Address → Prop} {s : State} (hs : Norm.spelled.Holds live s) :
    (runModule settings body s).1.Explained (journal settings body s) := by
  let A : Audit := ⟨.spelled, live, settings⟩
  obtain ⟨houtcome, hmeets, -⟩ := Audit.moduleBody (A := A) hbody s hs
  unfold runModule
  cases hr : Eval.moduleBody settings body s with
  | ok a s' => exact .inl trivial
  | error i s' =>
    rw [show Eval.moduleBody A.settings body s = _ from hr] at houtcome
    cases i with
    | unwritable cause =>
      obtain ⟨⟨r, hlast, hfault⟩, -⟩ := houtcome
      exact .inr ⟨cause, r, rfl, hlast, r.excuses hfault (hmeets _ (List.mem_of_getLast? hlast))⟩
    | error _ | breakLoop _ | continueLoop _ | returnCall _ _ | overflow | stalled => exact .inl trivial

/-! ## Runs of program texts -/

/-- What is noted during a run: nothing if the text is not a program. -/
def runJournal [Host] (settings : Settings) (file source : String) (w : World) : List Note :=
  match readModule file source with
  | .ok body => journal settings body ((State.start w).note (.evaluating file))
  | .error _ => []

theorem noteEnding_ending (file : String) (result : Ending × State) : (noteEnding file result).1 = result.1 := by
  obtain ⟨ending, s⟩ := result
  cases ending <;> rfl

/-- The ways in which reading a program text goes wrong: it is not a program, an exit is misplaced, or the check of the
exits takes too many frames. -/
theorem readModule_cases [Host] (file source : String) :
    (∃ body, readModule file source = .ok body ∧ Grammar.parse? source = some body) ∨
      (∃ e, readModule file source = .error (.failed e)) ∨
      ∃ body, readModule file source = .error .uncheckable ∧ Grammar.parse? source = some body ∧
        Host.checkFrames < moduleFrames body := by
  cases hparse : Grammar.parse? source with
  | none =>
    unfold readModule
    rw [hparse]
    exact .inr (.inl ⟨_, rfl⟩)
  | some body =>
    rcases readModule_of_parse file hparse with hread | ⟨hread, hframes⟩
    · rw [hread]
      cases checkModule file body with
      | error e => exact .inr (.inl ⟨e, rfl⟩)
      | ok _ => exact .inl ⟨body, rfl, rfl⟩
    · exact .inr (.inr ⟨body, hread, rfl, hframes⟩)

/-- A run of a text without null characters ends regularly, with two exceptions. The text is a program whose check takes
more frames than the host has left for it. Or a text is missing, which then is the last one that was asked for and needs
too long an integer or, inside a formatted string of a target, a backslash, or which the output refuses. So the run ends
regularly if there are enough frames and no such text is asked for. -/
theorem run_escapes [Host] (settings : Settings) (file : String) {source : String}
    (hsource : source.contains '\x00' = false) (w : World) (hw : ∀ st, w.Defines st → st.Spelled) :
    ((run settings file source w).1.Explained (runJournal settings file source w) ∨
      (run settings file source w).1 = .uncheckable ∧
        ∃ body, Grammar.parse? source = some body ∧ Host.checkFrames < moduleFrames body) ∧
      ((∀ body, Grammar.parse? source = some body → moduleFrames body ≤ Host.checkFrames) →
        (∀ r, .asking r ∈ runJournal settings file source w → r.Plain) →
        (run settings file source w).1.Regular) := by
  have hended : (run settings file source w).1.Explained (runJournal settings file source w) ∨
      (run settings file source w).1 = .uncheckable ∧
        ∃ body, Grammar.parse? source = some body ∧ Host.checkFrames < moduleFrames body := by
    simp only [run, runJournal, hsource, Bool.false_eq_true, if_false, noteEnding_ending]
    rcases readModule_cases file source with ⟨body, hread, hparse⟩ | ⟨e, hread⟩ | ⟨body, hread, hparse, hframes⟩
    · simp only [hread]
      have hbody := Grammar.spelled_parse? hparse
      exact .inl (runModule_explained settings hbody (.start ((State.start w).note (.evaluating file)) hw))
    · simp only [hread]
      exact .inl (.inl trivial)
    · simp only [hread]
      exact .inr ⟨trivial, body, hparse, hframes⟩
  refine ⟨hended, fun hframes hplain => ?_⟩
  rcases hended with hexplained | ⟨-, body, hparse, hdeep⟩
  · exact hexplained.regular hplain
  · exact absurd hdeep (Nat.not_lt.2 (hframes body hparse))

theorem noteEnding_world (file : String) (result : Ending × State) :
    (noteEnding file result).2.world = result.2.world := by
  obtain ⟨ending, s⟩ := result
  cases ending <;> rfl

/-- What a run leaves behind is fit for the next one. -/
theorem run_spelled [Host] (settings : Settings) (file source : String) {w : World} (hw : ∀ st, w.Defines st → st.Spelled)
    {st : Stmt} (hst : (run settings file source w).2.world.Defines st) : st.Spelled := by
  unfold run at hst
  split at hst
  · exact hw st hst
  · rw [noteEnding_world] at hst
    rcases readModule_cases file source with ⟨body, hread, hparse⟩ | ⟨e, hread⟩ | ⟨body, hread, -⟩
    case inr.inl | inr.inr =>
      rw [hread] at hst
      exact hw st hst
    case inl =>
      rw [hread] at hst
      let A : Audit := ⟨.spelled, Live w.heap w.Bound, settings⟩
      have hbody := Grammar.spelled_parse? hparse
      have hstart : A.Holds ((State.start w).note (.evaluating file)) :=
        .start ((State.start w).note (.evaluating file)) hw
      exact (Audit.runModule_booked hbody hstart).holds.fine hst

theorem World.not_defines_empty (st : Stmt) : ¬ World.empty.Defines st := by
  rintro ⟨name, params, body, hv, -⟩
  have hnothing : ∀ v, ¬ Reachable World.empty.heap World.empty.Bound v := by
    intro v hv
    induction hv with
    | root hbound =>
      obtain ⟨name, hname⟩ := hbound
      cases hname
    | item _ _ ih => exact ih
    | type _ ih => exact ih
    | entry _ _ _ ih => exact ih
  exact hnothing _ hv

section

attribute [local instance] Host.standard

/-- Printing an integer with one digit too many. -/
theorem run_escapes_sample :
    "print(10 ** 4300)".contains '\x00' = false ∧ (∀ st, World.empty.Defines st → st.Spelled) ∧
      (run (.standard false) unnamedFile "print(10 ** 4300)" .empty).1 = .unwritable .digitLimit ∧
      ∃ r, (runJournal (.standard false) unnamedFile "print(10 ** 4300)" .empty).getLast? = some (.asking r) ∧
        r.Long := by
  have hsource : "print(10 ** 4300)".contains '\x00' = false := by
    rw [String.contains_char_eq]
    decide +kernel
  have hworld : ∀ st, World.empty.Defines st → st.Spelled := fun st h => absurd h (World.not_defines_empty st)
  have hending : (run (.standard false) unnamedFile "print(10 ** 4300)" .empty).1 = .unwritable .digitLimit := by
    simp only [run, hsource, Bool.false_eq_true, if_false, noteEnding_ending]
    decide +kernel
  obtain ⟨h, -⟩ := run_escapes (.standard false) unnamedFile hsource .empty hworld
  rw [hending] at h
  rcases h with (hregular | ⟨cause, r, hcause, hlast, hexcuses⟩) | ⟨huncheckable, -⟩
  · cases hregular
  · cases hcause
    exact ⟨hsource, hworld, hending, r, hlast, hexcuses⟩
  · cases huncheckable

/-- An assignment to a subscript by a formatted string of a no-break space. The error about the target cannot be
written, since the space would have to be escaped, and there is no integer past the digit limit. -/
theorem run_target_backslash :
    "x[f\"\x7b'\u00a0'\x7d\"] = 1".contains '\x00' = false ∧
      (run (.standard false) unnamedFile "x[f\"\x7b'\u00a0'\x7d\"] = 1" .empty).1 = .unwritable .backslash := by
  have hsource : "x[f\"\x7b'\u00a0'\x7d\"] = 1".contains '\x00' = false := by
    rw [String.contains_char_eq]
    decide +kernel
  refine ⟨hsource, ?_⟩
  simp only [run, hsource, Bool.false_eq_true, if_false, noteEnding_ending]
  decide +kernel

end

end Treewalk
