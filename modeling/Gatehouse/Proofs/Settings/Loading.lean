import Gatehouse.Proofs.Settings.Variables

/-!
# Loading settings

Loading settings is a row of tests of one variable each: first whether it can be read, and in the
end whether it is zero. So a variable sets what its text means, as it does when nothing else is set,
and the first test that fails tells the same fault as when its variable is set alone.
-/
namespace Gatehouse

namespace GatewaySettings

namespace Variable

/-! ## A row of tests -/

/-- To read a variable and go on is to test whether it can be read and go on with its value. -/
theorem reading_bind (fault? : String → Option String) (source : Source) (var : Variable)
    {α : Type} (next : var.Value → Reading α) :
    (reading fault? source var >>= next)
      = test fault? source (var, .malformed) >>= fun _ => next (effective fault? source var) := by
  cases read : reading fault? source var with
  | ok value => simp only [test, effective, read]; rfl
  | error fault => simp only [test, read]; rfl

/-- A blank name counts as unset, so the name that is used is never blank. -/
theorem appName_not_blank (fault? : String → Option String) (source : Source) :
    Text.allBlank (effective fault? source .appName).toList = false := by
  simp only [effective, reading]
  cases set : value? source "APP_NAME" with
  | none => decide +kernel
  | some text =>
    have kept := (Option.filter_eq_some_iff.mp set).2
    simpa using kept

theorem validate_assemble (fault? : String → Option String) (source : Source) :
    validate (assemble (effective fault? source))
      = testAll fault? source (positive.map (·, .outOfRange)) := by
  -- A name is never blank here, which leaves three checks, one after the other.
  simp only [validate, assemble, appName_not_blank, Bool.false_eq_true, if_false, positive,
    testAll, List.map_cons, List.map_nil, test, excess?]
  by_cases noTimeout : Span.isZero (effective fault? source .httpTimeout)
  · simp only [noTimeout, if_true]
    rfl
  by_cases noConnect : Span.isZero (effective fault? source .httpConnectTimeout)
  · simp only [noTimeout, noConnect, Bool.false_eq_true, if_false, if_true]
    rfl
  by_cases noSize : effective fault? source .logMaxFileSize = 0
  · simp only [noTimeout, noConnect, noSize, Bool.false_eq_true, if_false, if_true]
    rfl
  · simp only [noTimeout, noConnect, noSize, Bool.false_eq_true, if_false]
    rfl

theorem testAll_append (fault? : String → Option String) (source : Source)
    (early late : List (Variable × Defect)) :
    testAll fault? source (early ++ late)
      = testAll fault? source early >>= fun _ => testAll fault? source late := by
  induction early with
  | nil => rfl
  | cons case rest ih => simp only [List.cons_append, testAll, ih, bind_assoc]

theorem loadUnder_eq (fault? : String → Option String) (source : Source) :
    loadUnder fault? source
      = testAll fault? source order >>= fun _ => .ok (assemble (effective fault? source)) := by
  -- Three texts cannot be malformed, so they are in effect before anything is read.
  have inTurn : loadUnder fault? source = (do
      let level ← reading fault? source .logLevel
      let format ← reading fault? source .logFormat
      let colors ← reading fault? source .logColors
      let toFile ← reading fault? source .logToFile
      let maxFileSize ← reading fault? source .logMaxFileSize
      let maxFileAgeDays ← reading fault? source .logMaxFileAgeDays
      let timeout ← reading fault? source .httpTimeout
      let connectTimeout ← reading fault? source .httpConnectTimeout
      let retries ← reading fault? source .httpRetries
      let retryDelay ← reading fault? source .httpRetryDelay
      let base ← reading fault? source .httpBaseUrl
      let settings : GatewaySettings := assemble fun
        | .logLevel => level
        | .logFormat => format
        | .logColors => colors
        | .logToFile => toFile
        | .logMaxFileSize => maxFileSize
        | .logMaxFileAgeDays => maxFileAgeDays
        | .httpTimeout => timeout
        | .httpConnectTimeout => connectTimeout
        | .httpRetries => retries
        | .httpRetryDelay => retryDelay
        | .httpBaseUrl => base
        | .appName => effective fault? source .appName
        | .logDir => effective fault? source .logDir
        | .httpUserAgent => effective fault? source .httpUserAgent
      validate settings
      return settings) := by
    simp only [loadUnder, readLog, readHttp, bind_assoc, pure_bind]
    rfl
  -- Each reading becomes a test, and what is read of it the value in effect.
  rw [inTurn]
  simp only [reading_bind fault? source .logLevel, reading_bind fault? source .logFormat,
    reading_bind fault? source .logColors, reading_bind fault? source .logToFile,
    reading_bind fault? source .logMaxFileSize, reading_bind fault? source .logMaxFileAgeDays,
    reading_bind fault? source .httpTimeout, reading_bind fault? source .httpConnectTimeout,
    reading_bind fault? source .httpRetries, reading_bind fault? source .httpRetryDelay,
    reading_bind fault? source .httpBaseUrl]
  rw [order, testAll_append, ← validate_assemble]
  simp only [fallible, List.map_cons, List.map_nil, testAll, bind_assoc]
  rfl

theorem testAll_eq_ok_iff (fault? : String → Option String) (source : Source)
    (cases : List (Variable × Defect)) :
    testAll fault? source cases = .ok () ↔ ∀ case ∈ cases, test fault? source case = .ok () := by
  induction cases with
  | nil => simp [testAll]
  | cons case rest ih =>
    rw [testAll, List.forall_mem_cons, ← ih]
    cases test fault? source case with
    | error fault => exact ⟨fun failed => (nomatch failed), fun failed => (nomatch failed.1)⟩
    | ok => exact ⟨fun passed => ⟨rfl, passed⟩, fun passed => passed.2⟩

/-- A row of tests tells the fault of the first one that fails. -/
theorem testAll_eq_error_iff (fault? : String → Option String) (source : Source)
    (cases : List (Variable × Defect)) (fault : SettingsFault) :
    testAll fault? source cases = .error fault
      ↔ ∃ before case after, cases = before ++ case :: after
          ∧ (∀ earlier ∈ before, test fault? source earlier = .ok ())
          ∧ test fault? source case = .error fault := by
  constructor
  · intro failed
    induction cases with
    | nil => cases failed
    | cons case rest ih =>
      rw [testAll] at failed
      cases first : test fault? source case with
      | error other =>
        rw [first] at failed
        obtain rfl := Except.error.inj failed
        exact ⟨[], case, rest, rfl, List.forall_mem_nil _, first⟩
      | ok =>
        rw [first] at failed
        obtain ⟨before, case', after, rfl, passed, found⟩ := ih failed
        exact ⟨case :: before, case', after, rfl, List.forall_mem_cons.mpr ⟨first, passed⟩, found⟩
  · rintro ⟨before, case, after, rfl, passed, found⟩
    have early := (testAll_eq_ok_iff fault? source before).mpr passed
    rw [testAll_append, early, testAll, found]
    rfl

/-- What is seen of the outcome shows that settings load. -/
theorem exists_load {α : Type} {source : Source} {view : GatewaySettings → α} {seen : α}
    (found : (load source).toOption.map view = some seen) :
    ∃ settings, load source = .ok settings ∧ view settings = seen := by
  cases loaded : load source with
  | error fault => simp [loaded, Except.toOption] at found
  | ok settings => exact ⟨settings, rfl, by simpa [loaded, Except.toOption] using found⟩

/-! ## One variable alone -/

section

variable (fault? : String → Option String) (source : Source) (var : Variable)

theorem test_alone_same (defect : Defect) :
    test fault? (var.alone source) (var, defect) = test fault? source (var, defect) :=
  test_congr fault? (reading_congr fault? (value?_alone_same var source)) defect

theorem test_alone_other {other : Variable} (differs : other ≠ var) (defect : Defect) :
    test fault? (var.alone source) (other, defect) = .ok () :=
  test_usual fault? (value?_alone_other differs source) defect

theorem test_alone_of_ok {case : Variable × Defect} (passed : test fault? source case = .ok ()) :
    test fault? (var.alone source) case = .ok () := by
  obtain ⟨other, defect⟩ := case
  by_cases same : other = var
  · subst same
    rw [test_alone_same, passed]
  · exact test_alone_other fault? source var same defect

theorem effective_alone :
    effective fault? (var.alone source) var = effective fault? source var := by
  simp only [effective, reading_congr fault? (value?_alone_same var source)]

theorem loadUnder_eq_ok_iff (settings : GatewaySettings) :
    loadUnder fault? source = .ok settings
      ↔ (∀ case ∈ order, test fault? source case = .ok ())
        ∧ settings = assemble (effective fault? source) := by
  rw [loadUnder_eq, ← testAll_eq_ok_iff]
  cases testAll fault? source order with
  | error fault => exact ⟨fun failed => (nomatch failed), fun failed => (nomatch failed.1)⟩
  | ok => exact ⟨fun loaded => ⟨rfl, (Except.ok.inj loaded).symm⟩, fun same => same.2 ▸ rfl⟩

theorem loadUnder_eq_error_iff (fault : SettingsFault) :
    loadUnder fault? source = .error fault
      ↔ ∃ before case after, order = before ++ case :: after
          ∧ (∀ earlier ∈ before, test fault? source earlier = .ok ())
          ∧ test fault? source case = .error fault := by
  rw [loadUnder_eq, ← testAll_eq_error_iff]
  cases testAll fault? source order with
  | error other =>
    exact ⟨fun failed => congrArg Except.error (Except.error.inj failed),
      fun failed => congrArg Except.error (Except.error.inj failed)⟩
  | ok => exact ⟨fun loaded => (nomatch loaded), fun failed => (nomatch failed)⟩

theorem order_passes_iff : (∀ case ∈ order, test fault? source case = .ok ())
    ↔ ∀ case ∈ order, ¬ HasDefect fault? source case.1 case.2 := by
  refine forall₂_congr fun case _ => ?_
  rw [← test_fails_iff]
  cases test fault? source case <;> simp

/-- Where no test fails, what is in effect is what variables set. -/
theorem sets_effective (passed : ∀ case ∈ order, test fault? source case = .ok ()) :
    var.Sets fault? source (effective fault? source var) := by
  rw [sets_iff]
  cases read : reading fault? source var with
  | ok value => rw [effective, read]
  | error fault =>
    have looked : (var, Defect.malformed) ∈ order :=
      List.mem_append_left _ (List.mem_map.mpr ⟨var, mem_fallible_of_error read, rfl⟩)
    have passes := passed _ looked
    rw [test, read] at passes
    cases passes

/-- A variable fails alone at a test that it fails at anyway. -/
theorem test_of_loadUnder_alone {fault : SettingsFault}
    (failed : loadUnder fault? (var.alone source) = .error fault) :
    test fault? source (var, fault.defect) = .error fault := by
  obtain ⟨_, ⟨other, defect⟩, _, _, _, found⟩ := (loadUnder_eq_error_iff fault? _ fault).mp failed
  obtain rfl : other = var := by
    refine Decidable.byContradiction fun differs => ?_
    rw [test_alone_other fault? source var differs] at found
    cases found
  rw [test_alone_same] at found
  rwa [(fault_of_test found).2]

end

/-- Loading is compositional, whatever texts count as addresses. Settings load exactly if each of
the fourteen variables loads when it is set alone, and that is if none has a defect. Then each
governs its setting as it does alone, by what its text means. If settings do not load, the fault is
that of one variable alone: the first whose text means nothing, or else the first whose text spells
zero where that is out of range. -/
theorem loading_is_compositional (fault? : String → Option String) (source : Source) :
    ((∃ settings, loadUnder fault? source = .ok settings)
      ↔ ∀ var : Variable, ∃ settings, loadUnder fault? (var.alone source) = .ok settings)
    ∧ ((∃ settings, loadUnder fault? source = .ok settings)
      ↔ ∀ case ∈ order, ¬ HasDefect fault? source case.1 case.2)
    ∧ (∀ settings, loadUnder fault? source = .ok settings → ∀ var : Variable,
        var.Sets fault? source (setting settings var) ∧ ∃ own,
          loadUnder fault? (var.alone source) = .ok own ∧ setting own var = setting settings var)
    ∧ ∀ fault, loadUnder fault? source = .error fault → ∃ before var defect after,
        order = before ++ (var, defect) :: after
        ∧ loadUnder fault? (var.alone source) = .error fault
        ∧ fault.culprit = var.name ∧ fault.defect = defect ∧ var.HasDefect fault? source defect
        ∧ ∀ earlier kind, (earlier, kind) ∈ before →
            ¬ earlier.HasDefect fault? source kind
            ∧ ∀ other, loadUnder fault? (earlier.alone source) = .error other →
                other.defect ≠ kind := by
  have alone : ∀ var : Variable, (∀ case ∈ order, test fault? source case = .ok ()) →
      loadUnder fault? (var.alone source)
        = .ok (assemble (effective fault? (var.alone source))) := by
    intro var passed
    refine (loadUnder_eq_ok_iff fault? _ _).mpr ⟨fun case member => ?_, rfl⟩
    exact test_alone_of_ok fault? source var (passed case member)
  have loads : (∃ settings, loadUnder fault? source = .ok settings)
      ↔ ∀ case ∈ order, test fault? source case = .ok () := by
    simp only [loadUnder_eq_ok_iff, exists_and_left, exists_eq, and_true]
  refine ⟨⟨?_, ?_⟩, loads.trans (order_passes_iff fault? source), ?_, ?_⟩
  · exact fun loaded var => ⟨_, alone var (loads.mp loaded)⟩
  · intro each
    refine loads.mpr ?_
    rintro ⟨var, defect⟩ member
    obtain ⟨settings, loaded⟩ := each var
    have passed := ((loadUnder_eq_ok_iff fault? _ settings).mp loaded).1 (var, defect) member
    rwa [test_alone_same] at passed
  · intro settings loaded var
    obtain ⟨passed, rfl⟩ := (loadUnder_eq_ok_iff fault? source settings).mp loaded
    simp only [setting_assemble]
    refine ⟨sets_effective fault? source var passed, _, alone var passed, ?_⟩
    rw [setting_assemble, effective_alone]
  · intro fault failed
    obtain ⟨before, ⟨var, defect⟩, after, shape, passed, found⟩ :=
      (loadUnder_eq_error_iff fault? source fault).mp failed
    obtain ⟨culprit, kind⟩ := fault_of_test found
    have defective := (test_fails_iff fault? source var defect).mp ⟨fault, found⟩
    refine ⟨before, var, defect, after, shape, ?_, culprit, kind, defective, ?_⟩
    · refine (loadUnder_eq_error_iff fault? _ fault).mpr ⟨before, _, after, shape, ?_, ?_⟩
      · exact fun earlier member => test_alone_of_ok fault? source var (passed earlier member)
      · rw [test_alone_same, found]
    · intro earlier kind member
      have passes := passed (earlier, kind) member
      constructor
      · intro wrong
        obtain ⟨other, fails⟩ := (test_fails_iff fault? source earlier kind).mpr wrong
        rw [passes] at fails
        cases fails
      · -- A variable that fails alone fails a test that was passed.
        rintro other otherwise rfl
        have own := test_of_loadUnder_alone fault? source earlier otherwise
        rw [passes] at own
        cases own

-- a zero timeout is not told of while another value is malformed
example (fault? : String → Option String) :
    loadUnder fault? (fun name =>
        if name = "HTTP_TIMEOUT_MS" then some "0"
        else if name = "HTTP_RETRIES" then some "many" else none)
      = .error (.unreadable "HTTP_RETRIES" "invalid digit found in string") := rfl

end Variable

end GatewaySettings

end Gatehouse
