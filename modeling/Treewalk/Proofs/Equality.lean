/-
Equality of values as a relation. On floats it is equality of the numbers they stand for, where a not-a-number stands for
none. On values it is a relation that follows their structure and is symmetric and transitive; a value is equal to itself
unless a not-a-number occurs in it.
-/
import Treewalk.Proofs.Legible
import Treewalk.Proofs.Rounding

namespace Treewalk

/-! ## Floats -/

namespace Double

/-- The rational number that a sign, a significand and an exponent stand for. -/
def rational (negative : Bool) (m : Nat) (e : Int) : ℚ := (if negative then -(m : ℚ) else m) * 2 ^ e

/-- What a float stands for: an infinity by its sign, a rational number, or nothing. -/
def number? : Double → Option (Bool ⊕ ℚ)
  | .nan => none
  | .infinite negative => some (.inl negative)
  | .finite negative m e _ => some (.inr (rational negative m e))

theorem significandAt_rat (negative : Bool) (m : Nat) {e target : Int} (h : target ≤ e) :
    (significandAt negative m e target : ℚ) * 2 ^ target = rational negative m e := by
  have hshift : ((m <<< (e - target).toNat : Nat) : ℚ) * 2 ^ target = m * 2 ^ e := by
    rw [Nat.shiftLeft_eq, mul_two_zpow_shift m h]
  unfold significandAt rational
  dsimp only
  generalize m <<< (e - target).toNat = k at hshift ⊢
  cases negative with
  | false =>
    rw [if_neg nofun, if_neg nofun, Int.cast_natCast, hshift]
  | true =>
    rw [if_pos rfl, if_pos rfl, Int.cast_neg, Int.cast_natCast, neg_mul, neg_mul, hshift]

theorem significandAt_eq_iff {a b : Bool} {m n : Nat} {e f : Int} :
    significandAt a m e (min e f) = significandAt b n f (min e f) ↔ rational a m e = rational b n f := by
  rw [← significandAt_rat a m (min_le_left e f), ← significandAt_rat b n (min_le_right e f),
    mul_left_inj' (two_zpow_pos (min e f)).ne', Int.cast_inj]

/-- Two floats are equal exactly if they stand for the same. -/
theorem equal_iff {x y : Double} : x.equal y = true ↔ ∃ r, x.number? = some r ∧ y.number? = some r := by
  have hsome {r r' : Bool ⊕ ℚ} : r = r' ↔ ∃ r'', some r = some r'' ∧ some r' = some r'' :=
    ⟨fun h => ⟨r, rfl, by rw [h]⟩, fun ⟨r'', h, h'⟩ => Option.some.inj (h.trans h'.symm)⟩
  unfold equal
  cases x with
  | nan =>
    refine iff_of_false Bool.false_ne_true ?_
    rintro ⟨r, h, -⟩
    cases h
  | infinite a =>
    cases y with
    | nan =>
      refine iff_of_false Bool.false_ne_true ?_
      rintro ⟨r, -, h⟩
      cases h
    | infinite b =>
      rw [number?, number?, ← hsome, Sum.inl.injEq]
      cases a <;> cases b <;> decide
    | finite b n f _ =>
      refine iff_of_false ?_ ?_
      · cases a <;> exact Bool.false_ne_true
      · rintro ⟨r, h, h'⟩
        cases h
        cases h'
  | finite a m e _ =>
    cases y with
    | nan =>
      refine iff_of_false Bool.false_ne_true ?_
      rintro ⟨r, -, h⟩
      cases h
    | infinite b =>
      refine iff_of_false ?_ ?_
      · cases b <;> exact Bool.false_ne_true
      · rintro ⟨r, h, h'⟩
        cases h
        cases h'
    | finite b n f _ =>
      rw [number?, number?, ← hsome, Sum.inr.injEq, ← significandAt_eq_iff, compare?, beq_iff_eq, Option.some.injEq,
        compare_eq_iff_eq]

theorem equal_comm (x y : Double) : x.equal y = y.equal x := by
  rw [Bool.eq_iff_iff, equal_iff, equal_iff]
  exact exists_congr fun r => and_comm

theorem equal_trans {x y z : Double} (h : x.equal y = true) (h' : y.equal z = true) : x.equal z = true := by
  obtain ⟨r, hx, hy⟩ := equal_iff.1 h
  obtain ⟨r', hy', hz⟩ := equal_iff.1 h'
  rw [hy] at hy'
  cases hy'
  exact equal_iff.2 ⟨r, hx, hz⟩

/-- Only a not-a-number is not equal to itself. -/
theorem equal_self_iff {x : Double} : x.equal x = true ↔ x.isNaN = false := by
  rw [equal_iff]
  cases x with
  | nan => exact iff_of_false nofun nofun
  | infinite negative => exact iff_of_true ⟨_, rfl, rfl⟩ rfl
  | finite negative m e _ => exact iff_of_true ⟨_, rfl, rfl⟩ rfl

end Double

/-! ## Values -/

namespace Value

/-- What comparisons rely on: the bodies of functions have texts, the class of an object is a class, and no value is
foreign. -/
def Comparable : Value → Prop
  | .function _ _ body => ∀ st ∈ body, st.Legible
  | .object type _ => ∃ name attrs, type = .cls name attrs
  | .foreign _ => False
  | _ => True

/-- A value that is comparable all the way down. -/
abbrev Sound (v : Value) : Prop := v.Within Comparable fun _ => True

/-- No float and no part of an imaginary number is a not-a-number. -/
def IsNumber : Value → Prop
  | .float x => x.isNaN = false
  | .imaginary re im => re.isNaN = false ∧ im.isNaN = false
  | _ => True

/-- No not-a-number occurs in the value or inside its tuples. -/
abbrev NumbersOnly (v : Value) : Prop := v.Within IsNumber fun _ => True

mutual

/-- Equality of values as a relation that follows their structure. -/
inductive Same : Value → Value → Prop
  | none : Same .none .none
  | bool (b : Bool) : Same (.bool b) (.bool b)
  | int (n : Int) : Same (.int n) (.int n)
  | float {x y : Double} (h : x.equal y = true) : Same (.float x) (.float y)
  | imaginary {a b c d : Double} (hre : a.equal c = true) (him : b.equal d = true) :
    Same (.imaginary a b) (.imaginary c d)
  | string (t : Text) : Same (.string t) (.string t)
  | tuple {as bs : List Value} (h : AllSame as bs) : Same (.tuple as) (.tuple bs)
  | function (name : String) (params : List String) {body body' : List Stmt} (h : bodyTexts body = bodyTexts body') :
    Same (.function name params body) (.function name params body')
  | cls (name : String) (attrs : Address) : Same (.cls name attrs) (.cls name attrs)
  | object {type type' : Value} (attrs : Address) (h : Same type type') : Same (.object type attrs) (.object type' attrs)

inductive AllSame : List Value → List Value → Prop
  | nil : AllSame [] []
  | cons {a b : Value} {as bs : List Value} (h : Same a b) (hrest : AllSame as bs) : AllSame (a :: as) (b :: bs)

end

section

variable {v w : Value}

theorem equal_of_kind_ne {k k' : Kind} (hv : v.kind = .ok k) (hw : w.kind = .ok k') (hne : k ≠ k') :
    v.equal w = .ok false := by
  unfold equal
  split
  case h_13 => rfl
  case h_11 => cases hv
  case h_12 => cases hw
  all_goals
    injection hv with hv
    injection hw with hw
    exact absurd (hv.symm.trans hw) hne

theorem Same.kind_eq (h : Same v w) : v.kind = w.kind := by
  cases h <;> rfl

end

mutual

theorem Same.symm : ∀ {v w : Value}, Same v w → Same w v
  | _, _, .none => .none
  | _, _, .bool b => .bool b
  | _, _, .int n => .int n
  | _, _, .float h => .float (by rwa [Double.equal_comm])
  | _, _, .imaginary hre him => .imaginary (by rwa [Double.equal_comm]) (by rwa [Double.equal_comm])
  | _, _, .string s => .string s
  | _, _, .tuple h => .tuple h.symm
  | _, _, .function name params h => .function name params h.symm
  | _, _, .cls name attrs => .cls name attrs
  | _, _, .object attrs h => .object attrs h.symm

theorem AllSame.symm : ∀ {as bs : List Value}, AllSame as bs → AllSame bs as
  | _, _, .nil => .nil
  | _, _, .cons h hrest => .cons h.symm hrest.symm

end

theorem AllSame.length_eq : ∀ {as bs : List Value}, AllSame as bs → as.length = bs.length
  | _, _, .nil => rfl
  | _, _, .cons _ hrest => congrArg (· + 1) hrest.length_eq

mutual

theorem Same.trans : ∀ {u v w : Value}, Same u v → Same v w → Same u w
  | _, _, _, .none, .none => .none
  | _, _, _, .bool b, .bool _ => .bool b
  | _, _, _, .int n, .int _ => .int n
  | _, _, _, .float h, .float h' => .float (Double.equal_trans h h')
  | _, _, _, .imaginary hre him, .imaginary hre' him' =>
    .imaginary (Double.equal_trans hre hre') (Double.equal_trans him him')
  | _, _, _, .string s, .string _ => .string s
  | _, _, _, .tuple h, .tuple h' => .tuple (h.trans h')
  | _, _, _, .function name params h, .function _ _ h' => .function name params (h.trans h')
  | _, _, _, .cls name attrs, .cls _ _ => .cls name attrs
  | _, _, _, .object attrs h, .object _ h' => .object attrs (h.trans h')

theorem AllSame.trans : ∀ {as bs cs : List Value}, AllSame as bs → AllSame bs cs → AllSame as cs
  | _, _, _, .nil, .nil => .nil
  | _, _, _, .cons h hrest, .cons h' hrest' => .cons (h.trans h') (hrest.trans hrest')

end

/-! ## Comparison -/

section

variable {v w : Value}

/-- What a comparison says: its result is true exactly if the values are the same. -/
def Tells (same : Prop) (x : Except Failure Bool) : Prop := ∃ b, x = .ok b ∧ (b = true ↔ same)

theorem Tells.true_iff {same : Prop} {x : Except Failure Bool} (h : Tells same x) : x = .ok true ↔ same := by
  obtain ⟨b, rfl, hb⟩ := h
  rw [← hb, Except.ok.injEq]

theorem tells_of_iff {same : Prop} {b : Bool} (h : b = true ↔ same) : Tells same (.ok b) := ⟨b, rfl, h⟩

/-- Values of different kinds are told apart. -/
theorem tells_of_kind_ne {k k' : Kind} (hv : v.kind = .ok k) (hw : w.kind = .ok k') (hne : k ≠ k') :
    Tells (Same v w) (v.equal w) := by
  refine ⟨false, equal_of_kind_ne hv hw hne, iff_of_false nofun fun hsame => ?_⟩
  have hkind := hsame.kind_eq
  rw [hv, hw] at hkind
  exact hne (Except.ok.inj hkind)

theorem exists_kind (h : v.Sound) : ∃ k, v.kind = .ok k := by
  cases v with
  | foreign type => exact h.here.elim
  | none | bool _ | int _ | float _ | imaginary _ _ | string _ | tuple _ | function _ _ _ | cls _ _ | object _ _ =>
    exact ⟨_, rfl⟩

theorem bodyTexts_ok {body : List Stmt} (h : ∀ st ∈ body, st.Legible) : ∃ texts, bodyTexts body = .ok texts := by
  have htexts : (Outline.texts? (outlineBlock body)).isSome = true := by
    rw [Outline.texts?_isSome, outlineBlock_eq]
    intro o ho
    obtain ⟨st, hst, rfl⟩ := List.mem_map.1 ho
    exact Outline.text?_of_legible (h st hst)
  obtain ⟨texts, htexts⟩ := Option.isSome_iff_exists.1 htexts
  exact ⟨texts, by rw [bodyTexts, htexts]; rfl⟩

theorem tells_function {name name' : String} {params params' : List String} {body body' : List Stmt}
    (h : ∀ st ∈ body, st.Legible) (h' : ∀ st ∈ body', st.Legible) :
    Tells (Same (.function name params body) (.function name' params' body'))
      (equal (.function name params body) (.function name' params' body')) := by
  rw [equal]
  split
  · rename_i hnames
    obtain ⟨rfl, rfl⟩ := hnames
    obtain ⟨texts, htexts⟩ := bodyTexts_ok h
    obtain ⟨texts', htexts'⟩ := bodyTexts_ok h'
    rw [htexts, htexts']
    refine tells_of_iff (beq_iff_eq.trans ⟨fun heq => ?_, fun hsame => ?_⟩)
    · exact .function name params (by rw [htexts, htexts', heq])
    · cases hsame with
      | function _ _ hbody =>
        rw [htexts, htexts'] at hbody
        exact Except.ok.inj hbody
  · rename_i hnames
    refine tells_of_iff (iff_of_false nofun fun hsame => ?_)
    cases hsame
    exact hnames ⟨rfl, rfl⟩

/-- Two values of one kind are compared as their structure says; values of different kinds were told apart before. -/
theorem tells_of_eq_kind (hv : v.Sound) (hw : w.Sound) (h : v.kind = w.kind → Tells (Same v w) (v.equal w)) :
    Tells (Same v w) (v.equal w) := by
  by_cases hkind : v.kind = w.kind
  · exact h hkind
  · obtain ⟨k, hk⟩ := exists_kind hv
    obtain ⟨k', hk'⟩ := exists_kind hw
    exact tells_of_kind_ne hk hk' fun hsame => hkind (by rw [hk, hk', hsame])

end

-- Comparison looks into two tuples and into the classes of two objects; the recursion is on the left value.
mutual

/-- Comparing two values tells whether they are the same. -/
theorem tells_equal : ∀ {v w : Value}, v.Sound → w.Sound → Tells (Same v w) (v.equal w)
  | .none, w, hv, hw => tells_of_eq_kind hv hw fun hkind => by
    cases w <;> cases hkind
    exact tells_of_iff (iff_of_true rfl .none)
  | .bool a, w, hv, hw => tells_of_eq_kind hv hw fun hkind => by
    cases w <;> cases hkind
    rename_i b
    exact tells_of_iff (beq_iff_eq.trans ⟨fun h => h ▸ .bool a, fun h => by cases h; rfl⟩)
  | .int a, w, hv, hw => tells_of_eq_kind hv hw fun hkind => by
    cases w <;> cases hkind
    exact tells_of_iff (beq_iff_eq.trans ⟨fun h => h ▸ .int a, fun h => by cases h; rfl⟩)
  | .float x, w, hv, hw => tells_of_eq_kind hv hw fun hkind => by
    cases w <;> cases hkind
    exact tells_of_iff ⟨.float, fun h => by cases h; assumption⟩
  | .imaginary a b, w, hv, hw => tells_of_eq_kind hv hw fun hkind => by
    cases w <;> cases hkind
    refine tells_of_iff (Bool.and_eq_true_iff.trans ⟨fun h => .imaginary h.1 h.2, fun h => ?_⟩)
    cases h with
    | imaginary hre him => exact ⟨hre, him⟩
  | .string s, w, hv, hw => tells_of_eq_kind hv hw fun hkind => by
    cases w <;> cases hkind
    exact tells_of_iff (beq_iff_eq.trans ⟨fun h => h ▸ .string s, fun h => by cases h; rfl⟩)
  | .tuple as, w, hv, hw => tells_of_eq_kind hv hw fun hkind => by
    cases w <;> cases hkind
    rename_i bs
    have hitems := tells_allEqual (within_tuple.1 hv).2 (within_tuple.1 hw).2
    rw [equal]
    split
    · rename_i hlength
      obtain ⟨b, hb, hsame⟩ := hitems hlength
      refine ⟨b, hb, hsame.trans ⟨.tuple, fun h => ?_⟩⟩
      cases h
      assumption
    · rename_i hlength
      refine tells_of_iff (iff_of_false Bool.false_ne_true fun h => ?_)
      cases h with
      | tuple hall => exact hlength hall.length_eq
  | .function _ _ _, w, hv, hw => tells_of_eq_kind hv hw fun hkind => by
    cases w <;> cases hkind
    exact tells_function hv.here hw.here
  | .cls name attrs, w, hv, hw => tells_of_eq_kind hv hw fun hkind => by
    cases w <;> cases hkind
    refine tells_of_iff (Bool.and_eq_true_iff.trans ⟨fun ⟨h, h'⟩ => ?_, fun h => ?_⟩)
    · rw [eq_of_beq h, eq_of_beq h']
      exact .cls _ _
    · cases h
      exact ⟨beq_self_eq_true _, beq_self_eq_true _⟩
  | .object type attrs, w, hv, hw => tells_of_eq_kind hv hw fun hkind => by
    cases w <;> cases hkind
    rename_i type' attrs'
    obtain ⟨b, hb, hsame⟩ := tells_equal (within_object.1 hv).2.2 (within_object.1 hw).2.2
    rw [equal, hb]
    cases b with
    | false =>
      refine tells_of_iff (iff_of_false Bool.false_ne_true fun h => ?_)
      cases h with
      | object _ htype => exact absurd (hsame.2 htype) Bool.false_ne_true
    | true =>
      refine tells_of_iff (beq_iff_eq.trans ⟨fun h => ?_, fun h => ?_⟩)
      · exact h ▸ .object attrs (hsame.1 rfl)
      · cases h
        rfl
  | .foreign _, _, hv, _ => hv.here.elim

theorem tells_allEqual : ∀ {as bs : List Value}, AllWithin Comparable (fun _ => True) as →
    AllWithin Comparable (fun _ => True) bs → as.length = bs.length → Tells (AllSame as bs) (allEqual as bs)
  | [], [], _, _, _ => by
    rw [allEqual]
    · exact tells_of_iff (iff_of_true rfl .nil)
    · nofun
  | a :: as, b :: bs, has, hbs, hlength => by
    obtain ⟨same, hsame, hiff⟩ := tells_equal has.1 hbs.1
    rw [allEqual, hsame]
    cases same with
    | false =>
      refine tells_of_iff (iff_of_false Bool.false_ne_true fun h => ?_)
      cases h with
      | cons hfirst _ => exact absurd (hiff.2 hfirst) Bool.false_ne_true
    | true =>
      obtain ⟨b, hb, hrest⟩ := tells_allEqual has.2 hbs.2 (Nat.succ.inj hlength)
      refine ⟨b, hb, hrest.trans ⟨.cons (hiff.1 rfl), fun h => ?_⟩⟩
      cases h
      assumption

end

/-! ## A value and itself -/

mutual

/-- A value is the same as itself unless a not-a-number occurs in it. -/
theorem same_self_iff : ∀ {v : Value}, v.Sound → (Same v v ↔ v.NumbersOnly)
  | .none, _ => iff_of_true .none trivial
  | .bool b, _ => iff_of_true (.bool b) trivial
  | .int n, _ => iff_of_true (.int n) trivial
  | .string s, _ => iff_of_true (.string s) trivial
  | .float x, _ => by
    have hfloat : (Value.float x).NumbersOnly ↔ x.isNaN = false := Iff.rfl
    rw [hfloat, ← Double.equal_self_iff]
    refine ⟨fun h => ?_, .float⟩
    cases h
    assumption
  | .imaginary a b, _ => by
    have himaginary : (Value.imaginary a b).NumbersOnly ↔ a.isNaN = false ∧ b.isNaN = false := Iff.rfl
    rw [himaginary, ← Double.equal_self_iff, ← Double.equal_self_iff]
    refine ⟨fun h => ?_, fun h => .imaginary h.1 h.2⟩
    cases h with
    | imaginary hre him => exact ⟨hre, him⟩
  | .tuple items, h => by
    have hitems := allSame_self_iff (within_tuple.1 h).2
    refine ⟨fun hsame => within_tuple.2 ⟨trivial, hitems.1 ?_⟩, fun hnumbers => .tuple (hitems.2 (within_tuple.1 hnumbers).2)⟩
    cases hsame
    assumption
  | .function name params _, _ => iff_of_true (.function name params rfl) trivial
  | .cls name attrs, _ => iff_of_true (.cls name attrs) ⟨trivial, trivial⟩
  | .object type attrs, h => by
    have htype := same_self_iff (within_object.1 h).2.2
    refine ⟨fun hsame => within_object.2 ⟨trivial, trivial, htype.1 ?_⟩,
      fun hnumbers => .object attrs (htype.2 (within_object.1 hnumbers).2.2)⟩
    cases hsame
    assumption
  | .foreign _, h => h.here.elim

theorem allSame_self_iff : ∀ {items : List Value}, AllWithin Comparable (fun _ => True) items →
    (AllSame items items ↔ AllWithin IsNumber (fun _ => True) items)
  | [], _ => iff_of_true .nil trivial
  | v :: rest, h => by
    have hfirst := same_self_iff h.1
    have hrest := allSame_self_iff h.2
    refine ⟨fun hsame => ?_, fun hnumbers => .cons (hfirst.2 hnumbers.1) (hrest.2 hnumbers.2)⟩
    cases hsame with
    | cons hv hvs => exact ⟨hfirst.1 hv, hrest.1 hvs⟩

end

/-! ## The relation of equality -/

/-- Comparing two sound values never fails. Values of different kinds are not equal, the comparison is symmetric and
transitive, and a value is equal to itself exactly if no not-a-number occurs in it. -/
theorem equal_partial_equivalence :
    (∀ v w : Value, v.Sound → w.Sound →
      (∃ b, v.equal w = .ok b) ∧ (v.kind ≠ w.kind → v.equal w = .ok false) ∧ v.equal w = w.equal v) ∧
    (∀ u v w : Value, u.Sound → v.Sound → w.Sound →
      u.equal v = .ok true → v.equal w = .ok true → u.equal w = .ok true) ∧
    ∀ v : Value, v.Sound → (v.equal v = .ok true ↔ v.NumbersOnly) := by
  refine ⟨fun v w hv hw => ?_, fun u v w hu hv hw huv hvw => ?_, fun v hv => ?_⟩
  · obtain ⟨b, hb, hsame⟩ := tells_equal hv hw
    obtain ⟨b', hb', hsame'⟩ := tells_equal hw hv
    refine ⟨⟨b, hb⟩, fun hkind => ?_, ?_⟩
    · obtain ⟨k, hk⟩ := exists_kind hv
      obtain ⟨k', hk'⟩ := exists_kind hw
      exact equal_of_kind_ne hk hk' fun h => hkind (by rw [hk, hk', h])
    · have hiff : b = true ↔ b' = true := by
        rw [hsame, hsame']
        exact ⟨.symm, .symm⟩
      rw [hb, hb', Bool.eq_iff_iff.2 hiff]
  · have huv' := (tells_equal hu hv).true_iff.1 huv
    have hvw' := (tells_equal hv hw).true_iff.1 hvw
    exact (tells_equal hu hw).true_iff.2 (huv'.trans hvw')
  · exact (tells_equal hv hv).true_iff.trans (same_self_iff hv)

/-- An object beside a tuple that holds an integer, and a tuple that holds a not-a-number. -/
theorem equal_partial_equivalence_sample :
    let v : Value := .tuple [.object (.cls "C" 0) 1, .tuple [.int 1]]
    let w : Value := .tuple [.float .nan]
    v.Sound ∧ w.Sound ∧ v.equal w = w.equal v ∧ v.equal v = .ok true ∧ w.equal w ≠ .ok true := by
  intro v w
  have hv : v.Sound := by
    refine within_tuple.2 ⟨trivial, within_object.2 ⟨⟨"C", 0, rfl⟩, trivial, within_cls.2 ⟨trivial, trivial⟩⟩, ?_, trivial⟩
    exact within_tuple.2 ⟨trivial, trivial, trivial⟩
  have hw : w.Sound := within_tuple.2 ⟨trivial, trivial, trivial⟩
  obtain ⟨hpairs, -, hself⟩ := equal_partial_equivalence
  refine ⟨hv, hw, (hpairs v w hv hw).2.2, (hself v hv).2 ?_, fun hequal => ?_⟩
  · refine within_tuple.2 ⟨trivial, within_object.2 ⟨trivial, trivial, within_cls.2 ⟨trivial, trivial⟩⟩, ?_, trivial⟩
    exact within_tuple.2 ⟨trivial, trivial, trivial⟩
  · have hnumbers := (within_tuple.1 ((hself w hw).1 hequal)).2.1
    cases hnumbers

end Value

end Treewalk
