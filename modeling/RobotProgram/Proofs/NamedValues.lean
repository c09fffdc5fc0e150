import RobotProgram.Proofs.ValueText
/-!
# RobotProgram.Proofs.NamedValues

Writing a data item of a loaded module by the text of a value, and reading it back. A name is
looked up the same way on both paths: the first module of that name, then the first item of that
name in it. Writing reads the text as a value, checks that the value fits the item's type and
stores the value's text in that item; reading parses the stored text as a value of the item's
type.

* `DataValue.parse_eq_error`: reading a value fails only by refusing the literal.
* `DataValue.parseAs_text`: the text of a value read from a literal, parsed as any type the value
  fits, gives the value back with the sign of its zeros dropped.
* `SimController.setData_found`: a write to a declared item changes that item's value and
  nothing else: the module's other items, a later item of the same name among them, and the
  other modules stay as they were.

Main statements: `writeNamedText_reads_back`, and `writeNamedText_second_declaration_refused`:
when a module declares a name twice, the type that counts is that of the first declaration.
-/

namespace RobotProgram

/-! ## Refused literals -/

/-- `r` is a value, or the refusal of a literal that could not be read. -/
def ReadOrRefused {α : Type} (r : Except Error α) : Prop :=
  ∀ e, r = .error e → ∃ literal reason, e = .invalidLiteral literal reason

namespace ReadOrRefused

variable {α β : Type}

@[simp] theorem ok {a : α} : ReadOrRefused (Except.ok a : Except Error α) := nofun

@[simp] theorem pure {a : α} : ReadOrRefused (Pure.pure a : Except Error α) := nofun

@[simp] theorem invalidLiteral {literal reason : String} :
    ReadOrRefused (Except.error (.invalidLiteral literal reason) : Except Error α) :=
  fun _ h => ⟨literal, reason, by cases h; rfl⟩

@[simp] theorem throw_invalidLiteral {literal reason : String} :
    ReadOrRefused (throw (Error.invalidLiteral literal reason) : Except Error α) :=
  invalidLiteral

@[simp] theorem bind_iff {x : Except Error α} {f : α → Except Error β} :
    ReadOrRefused (x >>= f) ↔ ReadOrRefused x ∧ ∀ a, x = .ok a → ReadOrRefused (f a) := by
  cases x <;> simp [ReadOrRefused, bind, Except.bind]

@[simp] theorem map_iff {x : Except Error α} {f : α → β} :
    ReadOrRefused (f <$> x) ↔ ReadOrRefused x := by
  cases x <;> simp [ReadOrRefused, Functor.map, Except.map]

/-- A missing part refused as an unreadable literal. -/
@[simp] theorem elim_pure {o : Option α} {x : Except Error α} (hx : ReadOrRefused x) :
    ReadOrRefused (o.elim x Pure.pure) := by
  cases o <;> simp [hx]

end ReadOrRefused

theorem Literal.parse_readOrRefused (text : String) : ReadOrRefused (Literal.parse text) := by
  unfold Literal.parse
  dsimp only
  split
  · simp
  · split <;> simp

theorem CartesianPose.parse_readOrRefused (text : String) :
    ReadOrRefused (CartesianPose.parse text) := by
  simp only [CartesianPose.parse, ReadOrRefused.bind_iff, Literal.parse_readOrRefused, true_and]
  intro lit _
  split <;> simp

theorem JointPose.parse_readOrRefused (text : String) : ReadOrRefused (JointPose.parse text) := by
  simp only [JointPose.parse, ReadOrRefused.bind_iff, Literal.parse_readOrRefused, true_and]
  intro lit _
  split <;> simp

namespace DataValue

theorem parse_readOrRefused (text : String) : ReadOrRefused (parse text) := by
  simp only [parse, ReadOrRefused.bind_iff, Literal.parse_readOrRefused, true_and]
  intro lit _
  unfold ofLiteral
  -- one case per literal shape; the records are refused as unrecognised when a part is missing
  split
  · simp
  · simp
  · simp
  · split
    · simp [CartesianPose.parse_readOrRefused]
    · simp [JointPose.parse_readOrRefused]
    · split <;> simp
    · split <;> simp
    · simp

/-- Reading a value fails only by refusing its literal. -/
theorem parse_eq_error {text : String} {e : Error} (h : parse text = .error e) :
    ∃ literal reason, e = .invalidLiteral literal reason :=
  parse_readOrRefused text e h

/-! ## Reading a value back as a type it fits -/

theorem fits_unsignZeros (v : DataValue) (ty : String) : v.unsignZeros.fits ty = v.fits ty := by
  cases v <;> rfl

/-- A value fits its own type, and a number also `dnum`. -/
theorem eq_of_fits {v : DataValue} {ty : String} (h : v.fits ty = true) :
    ty = v.dataType ∨ ty = "dnum" := by
  cases v <;> simp_all [fits]

/-- A text read as a value that fits a type other than the two targets is read so as that type. -/
theorem parseAs_of_parse {ty text : String} {w : DataValue} (hrob : ty ≠ "robtarget")
    (hjoint : ty ≠ "jointtarget") (hparse : parse text = .ok w) (hfits : w.fits ty = true) :
    parseAs ty text = .ok w := by
  have hmem : ty = "tooldata" ∨ ty = "wobjdata" ∨ ty = "num" ∨ ty = "dnum" ∨ ty = "bool" ∨
      ty = "string" := by
    rcases eq_of_fits hfits with rfl | rfl
    · cases w <;> simp_all [dataType]
    · simp
  simp [parseAs, hrob, hjoint, hmem, hparse, hfits, bind, Except.bind, pure, Except.pure]

/-- The text of a value read from a literal, parsed as a type the value fits, gives the value back
with the sign of its zeros dropped. Targets are parsed as targets and read back by
`CartesianPose.parse_text` and `JointPose.parse_text`; the other values by `parse_text`. -/
theorem parseAs_text {v : DataValue} (hv : v.Readable) {ty : String} (hfits : v.fits ty = true) :
    parseAs ty v.text = .ok v.unsignZeros := by
  cases v with
  | robtarget p =>
    have hty : ty = "robtarget" := by simpa [fits, dataType] using hfits
    subst hty
    have hp := CartesianPose.parse_text p fun x _ => readFloat?_plainText x
    rw [CartesianPose.readBack_eq_unsignZeros hv] at hp
    show parseAs "robtarget" p.text = _
    simp [parseAs, hp, unsignZeros, Functor.map, Except.map]
  | jointtarget j =>
    have hty : ty = "jointtarget" := by simpa [fits, dataType] using hfits
    subst hty
    have hj := JointPose.parse_text j fun x _ => readFloat?_plainText x
    rw [JointPose.readBack_eq_unsignZeros hv] at hj
    show parseAs "jointtarget" j.text = _
    simp [parseAs, hj, unsignZeros, Functor.map, Except.map]
  | tooldata t =>
    have hty : ty = "tooldata" := by simpa [fits, dataType] using hfits
    subst hty
    exact parseAs_of_parse (by decide) (by decide) (parse_text hv) (by rfl)
  | wobjdata w =>
    have hty : ty = "wobjdata" := by simpa [fits, dataType] using hfits
    subst hty
    exact parseAs_of_parse (by decide) (by decide) (parse_text hv) (by rfl)
  | num x =>
    have hty : ty = "num" ∨ ty = "dnum" := by simpa [fits, dataType] using hfits
    have hrob : ty ≠ "robtarget" := by rcases hty with rfl | rfl <;> decide
    have hjoint : ty ≠ "jointtarget" := by rcases hty with rfl | rfl <;> decide
    exact parseAs_of_parse hrob hjoint (parse_text hv) (by rw [fits_unsignZeros]; exact hfits)
  | bool b =>
    have hty : ty = "bool" := by simpa [fits, dataType] using hfits
    subst hty
    exact parseAs_of_parse (by decide) (by decide) (parse_text hv) (by rfl)
  | str s =>
    have hty : ty = "string" := by simpa [fits, dataType] using hfits
    subst hty
    exact parseAs_of_parse (by decide) (by decide) (parse_text hv) (by rfl)

end DataValue

/-! ## Writing an item of a loaded module -/

namespace SimController

/-- Replacing the first element a test picks, by one the test still picks, is what the test
then finds first. -/
theorem find?_replaceFirst {α : Type} {p : α → Bool} {f : α → α} (l : List α)
    (hf : ∀ x, p (f x) = p x) : (replaceFirst p f l).find? p = (l.find? p).map f := by
  induction l with
  | nil => rfl
  | cons x xs ih =>
    by_cases hx : p x = true
    · simp [replaceFirst, hx, hf]
    · simp [replaceFirst, hx, ih]

/-- Replacing the first element a test picks sets the list at the index of that element. -/
theorem replaceFirst_eq_set {α : Type} {p : α → Bool} {f : α → α} {l : List α} {x : α}
    (hx : l.find? p = some x) : replaceFirst p f l = l.set (l.findIdx p) (f x) := by
  induction l with
  | nil => simp at hx
  | cons y ys ih =>
    by_cases hy : p y = true
    · simp only [List.find?_cons, hy, Option.some.injEq] at hx
      subst hx
      simp [replaceFirst, hy, List.findIdx_cons]
    · simp only [List.find?_cons, hy] at hx
      simp [replaceFirst, hy, ih hx, List.findIdx_cons]

/-- Replacing the first element one test picks leaves what another test finds first, when no
element passes both and the replacement passes the other test as the original did. -/
theorem find?_replaceFirst_of_disjoint {α : Type} {p q : α → Bool} {f : α → α} (l : List α)
    (hf : ∀ x, q (f x) = q x) (hpq : ∀ x, p x = true → q x = false) :
    (replaceFirst p f l).find? q = l.find? q := by
  induction l with
  | nil => rfl
  | cons x xs ih =>
    by_cases hx : p x = true
    · simp [replaceFirst, hx, hf, hpq x hx]
    · by_cases hqx : q x = true <;> simp [replaceFirst, hx, hqx, ih]

variable {c : SimController} {module name : String} {m : LoadedModule} {d : DataItem}

/-- Writing an item that a logged-on client with mastership finds succeeds; afterwards the same
lookup finds the item with the new value, and the client keeps its logon and mastership. The
write changes that item only: the module found holds its items as before but for the first of
that name, and every other module name finds what it found before. -/
theorem setData_found (hloggedOn : c.loggedOn = true) (hmastership : c.mastership = true)
    (hmodule : c.module? module = some m) (hitem : m.data.find? (·.name == name) = some d)
    (value : String) :
    ∃ c', c.setData module name value = .ok c' ∧ c'.loggedOn = true ∧ c'.mastership = true ∧
      ((c'.module? module).bind fun m => m.data.find? (·.name == name)) =
        some { d with value := value } ∧
      c'.module? module =
        some { m with data := m.data.set (m.data.findIdx (·.name == name)) { d with value := value } } ∧
      ∀ module', module' ≠ module → c'.module? module' = c.module? module' := by
  have hset : c.setData module name value = .ok { c with
      modules := replaceFirst (·.name == module) (fun m => { m with
        data := replaceFirst (·.name == name) (fun d => { d with value := value }) m.data })
        c.modules } := by
    simp [setData, requireMastership, requireLoggedOn, hloggedOn, hmastership, hmodule, hitem,
      bind, Except.bind, pure, Except.pure]
  refine ⟨_, hset, hloggedOn, hmastership, ?_⟩
  -- the module and then the item are found where they were, changed
  have hm : (replaceFirst (·.name == module) (fun m => { m with
      data := replaceFirst (·.name == name) (fun d => { d with value := value }) m.data })
      c.modules).find? (·.name == module) = some { m with
        data := replaceFirst (·.name == name) (fun d => { d with value := value }) m.data } := by
    rw [find?_replaceFirst]
    · simp only [module?] at hmodule
      simp [hmodule]
    · intro x
      rfl
  have hd : (replaceFirst (·.name == name) (fun d => { d with value := value }) m.data).find?
      (·.name == name) = some { d with value := value } := by
    rw [find?_replaceFirst, hitem]
    · rfl
    · intro x
      rfl
  refine ⟨by simp [module?, hm, hd], by simp [module?, hm, replaceFirst_eq_set hitem], ?_⟩
  -- another module name passes over the module written, whose name is `module`
  intro module' hne
  simp only [module?]
  refine find?_replaceFirst_of_disjoint _ (fun x => rfl) fun x hx => ?_
  simp only [beq_iff_eq] at hx
  simp [hx, Ne.symm hne]

/-- What the controller then holds: the item found under the name has the new value. -/
theorem dataValue_of_found
    (hfound : ((c.module? module).bind fun m => m.data.find? (·.name == name)) = some d) :
    c.dataValue module name = some d.value := by
  unfold SimController.dataValue
  cases hm : c.module? module with
  | none => simp [hm] at hfound
  | some m' => simp_all [bind, Option.bind, pure]

end SimController

namespace Station

variable {s : Station} {module name : String} {m : LoadedModule} {d : DataItem}

/-- A logged-on client finds the first item of a name in the first module of a name. -/
theorem lookup_found (hloggedOn : s.controller.loggedOn = true)
    (hfound : ((s.controller.module? module).bind fun m => m.data.find? (·.name == name)) = some d) :
    lookup module name s = (s, .ok d) := by
  simp [lookup, askController, SimController.getData, SimController.requireLoggedOn, hloggedOn,
    hfound, bind, Except.bind, pure, Except.pure]

/-- Writing a value by name while holding mastership: a value that fits the type of the item found
is stored as its text, where the same lookup then finds it, and nothing else changes; one that
does not is refused with a type mismatch and changes nothing. -/
theorem writeNamedValue_found (hstate : s.session.state = .mastershipHeld)
    (hloggedOn : s.controller.loggedOn = true) (hmastership : s.controller.mastership = true)
    (hmodule : s.controller.module? module = some m)
    (hitem : m.data.find? (·.name == name) = some d) (v : DataValue) :
    (v.fits d.dataType = true → ∃ c',
      writeNamedValue module name v s = ({ s with controller := c' }, .ok ()) ∧
      c'.loggedOn = true ∧
      ((c'.module? module).bind fun m => m.data.find? (·.name == name)) =
        some { d with value := v.text } ∧
      c'.module? module =
        some { m with data := m.data.set (m.data.findIdx (·.name == name)) { d with value := v.text } } ∧
      ∀ module', module' ≠ module → c'.module? module' = s.controller.module? module') ∧
    (v.fits d.dataType = false →
      writeNamedValue module name v s = (s, .error (.typeMismatch name d.dataType v.dataType))) := by
  have hlookup : lookup module name s = (s, .ok d) :=
    lookup_found hloggedOn (by simp [hmodule, hitem])
  constructor
  · intro hfits
    obtain ⟨c', hset, hlog, -, hfound, hwritten, hothers⟩ :=
      SimController.setData_found hloggedOn hmastership hmodule hitem v.text
    refine ⟨c', ?_, hlog, hfound, hwritten, hothers⟩
    simp [writeNamedValue, require, hstate, hlookup, hfits, changeController, hset]
  · intro hfits
    simp [writeNamedValue, require, hstate, hlookup, hfits]

/-- Reading an item found by a connected client parses its stored text as its type. -/
theorem readNamedValue_found (hconnected : s.session.state ≠ .disconnected)
    (hloggedOn : s.controller.loggedOn = true)
    (hfound : ((s.controller.module? module).bind fun m => m.data.find? (·.name == name)) = some d) :
    readNamedValue module name s = (s, DataValue.parseAs d.dataType d.value) := by
  simp [readNamedValue, requireConnected, hconnected, lookup_found hloggedOn hfound, Action.result]

/-- A text that does not read as a value is refused before anything happens. -/
theorem writeNamedText_of_parse_error {t : String} {e : Error} (hparse : DataValue.parse t = .error e) :
    writeNamedText module name t s = (s, .error e) := by
  simp [writeNamedText, Action.result, hparse]

section Held

variable {t : String} {v : DataValue} (hstate : s.session.state = .mastershipHeld)
  (hloggedOn : s.controller.loggedOn = true) (hmastership : s.controller.mastership = true)
  (hmodule : s.controller.module? module = some m)
  (hitem : m.data.find? (·.name == name) = some d) (hparse : DataValue.parse t = .ok v)

include hstate hloggedOn hmastership hmodule hitem hparse

/-- A text that reads as a value of the item's type is stored as the value's text, in that item
alone, and reading the item back gives the value with the sign of its zeros dropped. -/
theorem writeNamedText_of_fits (hfits : v.fits d.dataType = true) :
    ∃ c', writeNamedText module name t s = ({ s with controller := c' }, .ok ()) ∧
      c'.dataValue module name = some v.text ∧
      c'.module? module =
        some { m with data := m.data.set (m.data.findIdx (·.name == name)) { d with value := v.text } } ∧
      (∀ module', module' ≠ module → c'.module? module' = s.controller.module? module') ∧
      (readNamedValue module name { s with controller := c' }).2 = .ok v.unsignZeros := by
  obtain ⟨c', hw, hlog', hfound, hwritten, hothers⟩ :=
    (writeNamedValue_found hstate hloggedOn hmastership hmodule hitem v).1 hfits
  refine ⟨c', by simp [writeNamedText, Action.result, hparse, hw],
    SimController.dataValue_of_found hfound, hwritten, hothers, ?_⟩
  -- reading back parses the stored text as the item's type
  rw [readNamedValue_found (by simp [hstate]) hlog' hfound]
  exact DataValue.parseAs_text (DataValue.readable_of_parse hparse) hfits

/-- A text that reads as a value of another type is refused for its type. -/
theorem writeNamedText_of_not_fits (hfits : v.fits d.dataType = false) :
    writeNamedText module name t s = (s, .error (.typeMismatch name d.dataType v.dataType)) := by
  simp [writeNamedText, Action.result, hparse,
    (writeNamedValue_found hstate hloggedOn hmastership hmodule hitem v).2 hfits]

end Held

/-- Writing the text of a value to a data item, inside a mastership scope: the session holds
mastership, the controller has granted it, and `d` is the item the name designates in the loaded
module `m` (the first of that name). The write succeeds exactly when the text reads as a value
that fits the item's type; the item then holds the value's text, the module's other items (a
later item of the same name among them) and the other modules are as they were, and reading it
back gives the value, equal to it under numeric equality. A write that fails refuses the text as
a literal or for its type, and leaves the station as it was. -/
theorem writeNamedText_reads_back {t : String} (hstate : s.session.state = .mastershipHeld)
    (hloggedOn : s.controller.loggedOn = true) (hmastership : s.controller.mastership = true)
    (hmodule : s.controller.module? module = some m)
    (hitem : m.data.find? (·.name == name) = some d) :
    ((writeNamedText module name t s).2 = .ok () ↔
      ∃ v, DataValue.parse t = .ok v ∧ v.fits d.dataType = true) ∧
    (∀ v, DataValue.parse t = .ok v → v.fits d.dataType = true →
      (writeNamedText module name t s).1.controller.dataValue module name = some v.text ∧
      (writeNamedText module name t s).1.controller.module? module =
        some { m with data := m.data.set (m.data.findIdx (·.name == name)) { d with value := v.text } } ∧
      (∀ module', module' ≠ module →
        (writeNamedText module name t s).1.controller.module? module' =
          s.controller.module? module') ∧
      ∃ v', (readNamedValue module name (writeNamedText module name t s).1).2 = .ok v' ∧
        v'.NumEq v) ∧
    (∀ e, (writeNamedText module name t s).2 = .error e → (writeNamedText module name t s).1 = s ∧
      ((∃ literal reason, e = .invalidLiteral literal reason) ∨
        ∃ v, DataValue.parse t = .ok v ∧ e = .typeMismatch name d.dataType v.dataType)) := by
  cases hparse : DataValue.parse t with
  | error e =>
    rw [writeNamedText_of_parse_error hparse]
    refine ⟨by simp, fun v hv => (nomatch hv), fun e' he' => ?_⟩
    cases he'
    exact ⟨rfl, .inl (DataValue.parse_eq_error hparse)⟩
  | ok v =>
    cases hfits : v.fits d.dataType with
    | true =>
      obtain ⟨c', hw, hvalue, hwritten, hothers, hread⟩ :=
        writeNamedText_of_fits hstate hloggedOn hmastership hmodule hitem hparse hfits
      rw [hw]
      refine ⟨by simp [hfits], fun v' hv' _ => ?_, fun e he => (nomatch he)⟩
      cases hv'
      exact ⟨hvalue, hwritten, hothers, v.unsignZeros, hread, DataValue.numEq_unsignZeros v⟩
    | false =>
      rw [writeNamedText_of_not_fits hstate hloggedOn hmastership hmodule hitem hparse hfits]
      refine ⟨by simp [hfits], fun v' hv' hfits' => ?_, fun e he => ?_⟩
      · cases hv'
        simp [hfits] at hfits'
      · cases he
        exact ⟨rfl, .inr ⟨v, rfl, rfl⟩⟩

/-- A station inside a mastership scope, with a loaded module `M` that declares `x` twice: first
as a number, then as a string. -/
def twiceDeclared : Station where
  controller :=
    { loggedOn := true
      mastership := true
      modules := [⟨"M", [⟨"M", "x", "num", "1"⟩, ⟨"M", "x", "string", "\"a\""⟩]⟩] }
  session := { state := .mastershipHeld }

theorem writeNamedText_reads_back_twice_declared :
    twiceDeclared.session.state = .mastershipHeld ∧ twiceDeclared.controller.loggedOn = true ∧
      twiceDeclared.controller.mastership = true ∧
      twiceDeclared.controller.module? "M" =
        some ⟨"M", [⟨"M", "x", "num", "1"⟩, ⟨"M", "x", "string", "\"a\""⟩]⟩ ∧
      ((writeNamedText "M" "x" "7" twiceDeclared).2 = .ok () ↔
        ∃ v, DataValue.parse "7" = .ok v ∧ v.fits "num" = true) :=
  ⟨rfl, rfl, rfl, rfl, (writeNamedText_reads_back (d := ⟨"M", "x", "num", "1"⟩) rfl rfl rfl rfl rfl).1⟩

/-- The name designates its first declaration only: a string written to `x` is checked against
the number declared first and refused, although `x` is also declared a string. -/
theorem writeNamedText_second_declaration_refused :
    ⟨"M", "x", "string", "\"a\""⟩ ∈ (twiceDeclared.controller.module? "M").elim [] (·.data) ∧
      DataValue.parse "\"b\"" = .ok (.str "b") ∧ (DataValue.str "b").fits "string" = true ∧
      writeNamedText "M" "x" "\"b\"" twiceDeclared =
        (twiceDeclared, .error (.typeMismatch "x" "num" "string")) := by
  have hparse : DataValue.parse "\"b\"" = .ok (.str "b") :=
    DataValue.parse_text (v := .str "b") (by simp [DataValue.Readable])
  refine ⟨by decide, hparse, rfl, ?_⟩
  have hwrite : writeNamedValue "M" "x" (.str "b") twiceDeclared =
      (twiceDeclared, .error (.typeMismatch "x" "num" "string")) :=
    (writeNamedValue_found (d := ⟨"M", "x", "num", "1"⟩) rfl rfl rfl rfl (by rfl) _).2 rfl
  simp [writeNamedText, Action.result, hparse, hwrite]

end Station

end RobotProgram
