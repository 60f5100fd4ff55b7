import Gatehouse.Proofs.Settings.Meanings

/-!
# Settings by variable

Each of the fourteen variables governs a setting of its own, and is tested by itself: whether it can
be read, and whether it is zero where that is out of range. The text that it is set to decides which
test it fails.
-/
namespace Gatehouse

/-- What can be wrong with the value of a variable. -/
inductive Defect
  | malformed
  | outOfRange
deriving DecidableEq

namespace SettingsFault

def defect : SettingsFault → Defect
  | .badUrl .. | .unreadable .. => .malformed
  | .unacceptable .. => .outOfRange

/-- The variable that a fault is told of. -/
def culprit : SettingsFault → String
  | .badUrl name _ | .unreadable name _ | .unacceptable name _ => name

end SettingsFault

namespace GatewaySettings

inductive Variable
  | appName
  | logLevel
  | logFormat
  | logColors
  | logToFile
  | logDir
  | logMaxFileSize
  | logMaxFileAgeDays
  | httpBaseUrl
  | httpTimeout
  | httpRetries
  | httpRetryDelay
  | httpConnectTimeout
  | httpUserAgent
deriving DecidableEq

namespace Variable

def name : Variable → String
  | .appName => "APP_NAME"
  | .logLevel => "LOG_LEVEL"
  | .logFormat => "LOG_FORMAT"
  | .logColors => "LOG_COLORS"
  | .logToFile => "LOG_TO_FILE"
  | .logDir => "LOG_DIR"
  | .logMaxFileSize => "LOG_MAX_FILE_SIZE"
  | .logMaxFileAgeDays => "LOG_MAX_FILE_AGE_DAYS"
  | .httpBaseUrl => "HTTP_BASE_URL"
  | .httpTimeout => "HTTP_TIMEOUT_MS"
  | .httpRetries => "HTTP_RETRIES"
  | .httpRetryDelay => "HTTP_RETRY_DELAY_MS"
  | .httpConnectTimeout => "HTTP_CONNECT_TIMEOUT_MS"
  | .httpUserAgent => "HTTP_USER_AGENT"

/-- What a variable says. -/
abbrev Value : Variable → Type
  | .appName | .logDir | .httpUserAgent => String
  | .logLevel => Level
  | .logFormat => LogFormat
  | .logColors | .logToFile => Bool
  | .logMaxFileSize | .logMaxFileAgeDays | .httpRetries => Nat
  | .httpBaseUrl => Option String
  | .httpTimeout | .httpRetryDelay | .httpConnectTimeout => Span

/-- The setting that a variable governs. -/
def setting (settings : GatewaySettings) : (var : Variable) → var.Value
  | .appName => settings.log.app
  | .logLevel => settings.log.level
  | .logFormat => settings.log.format
  | .logColors => settings.log.colors
  | .logToFile => settings.log.toFile
  | .logDir => settings.log.folder
  | .logMaxFileSize => settings.log.maxFileSize
  | .logMaxFileAgeDays => settings.log.maxFileAgeDays
  | .httpBaseUrl => settings.http.baseUrl
  | .httpTimeout => settings.http.timeout
  | .httpRetries => settings.http.retries
  | .httpRetryDelay => settings.http.retryDelay
  | .httpConnectTimeout => settings.http.connectTimeout
  | .httpUserAgent => settings.http.userAgent

/-- Nothing set but one variable, to what it is set to anyway. -/
def alone (var : Variable) (source : Source) : Source :=
  fun name => if name = var.name then source name else none

/-- The variables that may be malformed, in the order in which they are read. -/
def fallible : List Variable :=
  [.logLevel, .logFormat, .logColors, .logToFile, .logMaxFileSize, .logMaxFileAgeDays,
    .httpTimeout, .httpConnectTimeout, .httpRetries, .httpRetryDelay, .httpBaseUrl]

/-- The variables that may not be zero, in the order in which they are looked at. -/
def positive : List Variable := [.httpTimeout, .httpConnectTimeout, .logMaxFileSize]

/-- The order in which defects are looked for. -/
def order : List (Variable × Defect) :=
  fallible.map (·, .malformed) ++ positive.map (·, .outOfRange)

/-! ## A variable by itself -/

/-- The settings that nothing is set for. -/
def usual : GatewaySettings := ⟨LogSettings.usual, ClientConfig.usual⟩

/-- What is read of a variable. -/
def reading (fault? : String → Option String) (source : Source) :
    (var : Variable) → Reading var.Value
  | .appName => .ok ((value? source "APP_NAME").getD LogSettings.usual.app)
  | .logLevel => read source "LOG_LEVEL" LogSettings.usual.level levelOf
  | .logFormat => read source "LOG_FORMAT" LogSettings.usual.format formatOf
  | .logColors => read source "LOG_COLORS" LogSettings.usual.colors boolOf
  | .logToFile => read source "LOG_TO_FILE" LogSettings.usual.toFile boolOf
  | .logDir => .ok ((value? source "LOG_DIR").getD LogSettings.usual.folder)
  | .logMaxFileSize =>
    read source "LOG_MAX_FILE_SIZE" LogSettings.usual.maxFileSize (numberOf longNumber)
  | .logMaxFileAgeDays =>
    read source "LOG_MAX_FILE_AGE_DAYS" LogSettings.usual.maxFileAgeDays (numberOf longNumber)
  | .httpBaseUrl => baseUrl fault? source
  | .httpTimeout => read source "HTTP_TIMEOUT_MS" ClientConfig.usual.timeout millisOf
  | .httpRetries => read source "HTTP_RETRIES" ClientConfig.usual.retries (numberOf shortNumber)
  | .httpRetryDelay => read source "HTTP_RETRY_DELAY_MS" ClientConfig.usual.retryDelay millisOf
  | .httpConnectTimeout =>
    read source "HTTP_CONNECT_TIMEOUT_MS" ClientConfig.usual.connectTimeout millisOf
  | .httpUserAgent => .ok ((value? source "HTTP_USER_AGENT").getD ClientConfig.usual.userAgent)

/-- What a variable sets if it can be read. -/
def effective (fault? : String → Option String) (source : Source) (var : Variable) :
    var.Value :=
  match reading fault? source var with
  | .ok value => value
  | .error _ => setting usual var

/-- Why a value is out of range. -/
def excess? : (var : Variable) → var.Value → Option String
  | .httpTimeout, span | .httpConnectTimeout, span =>
    if span.isZero then some "timeout must be greater than 0" else none
  | .logMaxFileSize, size => if size = 0 then some "size must be greater than 0" else none
  | _, _ => none

/-- Looks for a defect of a variable. -/
def test (fault? : String → Option String) (source : Source) :
    Variable × Defect → Reading Unit
  | (var, .malformed) => (reading fault? source var).map fun _ => ()
  | (var, .outOfRange) =>
    match excess? var (effective fault? source var) with
    | none => .ok ()
    | some reason => .error (.unacceptable var.name reason)

/-- Makes tests in turn, up to the first that finds a fault. -/
def testAll (fault? : String → Option String) (source : Source) :
    List (Variable × Defect) → Reading Unit
  | [] => .ok ()
  | case :: rest => do
    test fault? source case
    testAll fault? source rest

/-- The settings of which each variable has its value. -/
def assemble (value : (var : Variable) → var.Value) : GatewaySettings where
  log :=
    { level := value .logLevel, format := value .logFormat, colors := value .logColors
      toFile := value .logToFile, folder := value .logDir, app := value .appName
      maxFileSize := value .logMaxFileSize, maxFileAgeDays := value .logMaxFileAgeDays }
  http :=
    { ClientConfig.usual with
      timeout := value .httpTimeout, connectTimeout := value .httpConnectTimeout
      retries := value .httpRetries, retryDelay := value .httpRetryDelay
      userAgent := value .httpUserAgent, baseUrl := value .httpBaseUrl }

theorem setting_assemble (value : (var : Variable) → var.Value) (var : Variable) :
    setting (assemble value) var = value var := by
  cases var <;> rfl

theorem name_injective {one other : Variable} (same : one.name = other.name) : one = other := by
  cases one <;> cases other <;> first | rfl | exact absurd same (by decide)

/-! ## Values of one variable -/

theorem value?_alone_same (var : Variable) (source : Source) :
    value? (var.alone source) var.name = value? source var.name := by
  simp only [value?, alone, if_true]

theorem value?_alone_other {var other : Variable} (differs : other ≠ var)
    (source : Source) : value? (var.alone source) other.name = none := by
  have name : other.name ≠ var.name := fun same => differs (name_injective same)
  simp only [value?, alone, if_neg name, Option.filter_none]

/-- A variable is read from its own value. -/
theorem reading_congr (fault? : String → Option String) {source other : Source}
    {var : Variable} (same : value? source var.name = value? other var.name) :
    reading fault? source var = reading fault? other var := by
  cases var <;> simp only [reading, read, baseUrl, name] at same ⊢ <;> rw [same]

theorem reading_of_unset (fault? : String → Option String) {source : Source} {var : Variable}
    (unset : value? source var.name = none) :
    reading fault? source var = .ok (setting usual var) := by
  cases var <;> simp only [reading, read, baseUrl, name] at unset ⊢ <;> rw [unset] <;> rfl

theorem test_congr (fault? : String → Option String) {source other : Source}
    {var : Variable} (same : reading fault? source var = reading fault? other var)
    (defect : Defect) :
    test fault? source (var, defect) = test fault? other (var, defect) := by
  cases defect <;> simp only [test, effective, same]

theorem excess?_usual (var : Variable) : excess? var (setting usual var) = none := by
  cases var <;> rfl

theorem test_usual (fault? : String → Option String) {source : Source} {var : Variable}
    (unset : value? source var.name = none) (defect : Defect) :
    test fault? source (var, defect) = .ok () := by
  have usually := reading_of_unset fault? unset
  cases defect with
  | malformed => rw [test, usually, Except.map]
  | outOfRange => simp only [test, effective, usually, excess?_usual]

theorem fault_of_read {α : Type} {source : Source} {name : String} {fallback : α}
    {meaning : String → Except String α} {fault : SettingsFault}
    (failed : read source name fallback meaning = .error fault) :
    ∃ reason, fault = .unreadable name reason := by
  unfold read at failed
  split at failed
  · cases failed
  · split at failed
    · cases failed
    next reason _ => exact ⟨reason, (Except.error.inj failed).symm⟩

theorem fault_of_baseUrl {fault? : String → Option String} {source : Source}
    {fault : SettingsFault} (failed : baseUrl fault? source = .error fault) :
    ∃ reason, fault = .badUrl "HTTP_BASE_URL" reason := by
  unfold baseUrl at failed
  split at failed
  · cases failed
  · split at failed
    · cases failed
    next reason _ => exact ⟨reason, (Except.error.inj failed).symm⟩

theorem fault_of_reading {fault? : String → Option String} {source : Source} {var : Variable}
    {fault : SettingsFault} (failed : reading fault? source var = .error fault) :
    fault.culprit = var.name ∧ fault.defect = .malformed := by
  cases var
  case appName => cases failed
  case logDir => cases failed
  case httpUserAgent => cases failed
  case httpBaseUrl =>
    obtain ⟨reason, rfl⟩ := fault_of_baseUrl failed
    exact ⟨rfl, rfl⟩
  all_goals
    simp only [reading] at failed
    obtain ⟨reason, rfl⟩ := fault_of_read failed
    exact ⟨rfl, rfl⟩

/-- A fault is told of the variable that it is found at, and of its kind. -/
theorem fault_of_test {fault? : String → Option String} {source : Source} {var : Variable}
    {defect : Defect} {fault : SettingsFault}
    (found : test fault? source (var, defect) = .error fault) :
    fault.culprit = var.name ∧ fault.defect = defect := by
  cases defect with
  | malformed =>
    cases read : reading fault? source var with
    | ok value => simp [test, read, Except.map] at found
    | error other =>
      simp only [test, read, Except.map, Except.error.injEq] at found
      exact found ▸ fault_of_reading read
  | outOfRange =>
    simp only [test] at found
    split at found
    · cases found
    · obtain rfl := Except.error.inj found
      exact ⟨rfl, rfl⟩

/-! ## Texts that are at fault -/

/-- What a text says as the value of a variable, under a judgement on addresses. -/
def Means (fault? : String → Option String) (text : String) : (var : Variable) → var.Value → Prop
  | .appName, value | .logDir, value | .httpUserAgent, value => value = text
  | .logLevel, level => Text.lowered (Text.trimmed text) ∈ level.words
  | .logFormat, format => Text.lowered (Text.trimmed text) ∈ format.words
  | .logColors, value | .logToFile, value =>
    Text.lowered (Text.trimmed text) ∈ wordsOf value
  | .logMaxFileSize, n | .logMaxFileAgeDays, n =>
    Unsigned.Spells (Text.trimmed text).toList n ∧ n ≤ longNumber
  | .httpRetries, n => Unsigned.Spells (Text.trimmed text).toList n ∧ n ≤ shortNumber
  | .httpTimeout, span | .httpRetryDelay, span | .httpConnectTimeout, span =>
    ∃ n, Unsigned.Spells (Text.trimmed text).toList n ∧ n ≤ longNumber ∧ span = Span.ofMillis n
  | .httpBaseUrl, base => fault? text = none ∧ base = some text

/-- Whether a text is at fault as the value of a variable: it means nothing, or it spells zero where
that is out of range. -/
def IsWrong (fault? : String → Option String) (var : Variable) (text : String) : Defect → Prop
  | .malformed => ∀ value, ¬ Means fault? text var value
  | .outOfRange => var ∈ positive ∧ Unsigned.Spells (Text.trimmed text).toList 0

/-- A variable that is unset or blank has no defect. -/
def HasDefect (fault? : String → Option String) (source : Source) (var : Variable)
    (defect : Defect) : Prop :=
  ∃ text, value? source var.name = some text ∧ IsWrong fault? var text defect

/-- Whether a variable sets a value: the one that its text means, or the usual one if it is unset or
blank. -/
def Sets (fault? : String → Option String) (source : Source) (var : Variable)
    (value : var.Value) : Prop :=
  match value? source var.name with
  | none => value = setting usual var
  | some text => Means fault? text var value

theorem read_eq_ok_iff {α : Type} {source : Source} {name text : String}
    (set : value? source name = some text) (fallback : α) (meaning : String → Except String α)
    (value : α) :
    read source name fallback meaning = .ok value ↔ meaning (Text.trimmed text) = .ok value := by
  simp only [read, set]
  cases meaning (Text.trimmed text) <;> simp

/-- A variable that is set is read as what its text means. -/
theorem reading_eq_ok_iff (fault? : String → Option String) {source : Source} {var : Variable}
    {text : String} (set : value? source var.name = some text) (value : var.Value) :
    reading fault? source var = .ok value ↔ Means fault? text var value := by
  cases var
  all_goals simp only [name] at set
  case httpBaseUrl =>
    simp only [reading, baseUrl, set, Means]
    cases fault? text <;> simp [eq_comm]
  case logLevel => rw [reading, read_eq_ok_iff set, levelOf_eq_ok_iff, Text.trimmed_trimmed, Means]
  case logFormat => rw [reading, read_eq_ok_iff set, formatOf_eq_ok_iff, Text.trimmed_trimmed, Means]
  case logColors | logToFile => rw [reading, read_eq_ok_iff set, boolOf_eq_ok_iff, Means]
  case logMaxFileSize | logMaxFileAgeDays | httpRetries =>
    rw [reading, read_eq_ok_iff set, numberOf_eq_ok_iff, Means]
  case httpTimeout | httpRetryDelay | httpConnectTimeout =>
    rw [reading, read_eq_ok_iff set, millisOf_eq_ok_iff, Means]
  case appName | logDir | httpUserAgent =>
    simp only [reading, set, Option.getD_some, Means, Except.ok.injEq, eq_comm]

theorem sets_iff (fault? : String → Option String) (source : Source) (var : Variable)
    (value : var.Value) : Sets fault? source var value ↔ reading fault? source var = .ok value := by
  rw [Sets]
  cases set : value? source var.name with
  | none => simp only [reading_of_unset fault? set, Except.ok.injEq, eq_comm]
  | some text => exact (reading_eq_ok_iff fault? set value).symm

theorem mem_fallible_of_error {fault? : String → Option String} {source : Source} {var : Variable}
    {fault : SettingsFault} (failed : reading fault? source var = .error fault) :
    var ∈ fallible := by
  cases var <;> first | decide | cases failed

/-- A meaning is told to be out of range exactly if its text is wrong in that way. -/
theorem exists_excess_iff {fault? : String → Option String} {var : Variable} {text : String}
    {value : var.Value} (means : Means fault? text var value) :
    (∃ reason, excess? var value = some reason) ↔ IsWrong fault? var text .outOfRange := by
  cases var
  case httpTimeout | httpConnectTimeout =>
    obtain ⟨n, spells, _, rfl⟩ := means
    simp [excess?, IsWrong, positive, Span.isZero_ofMillis, spells.eq_zero_iff]
  case logMaxFileSize =>
    obtain ⟨spells, _⟩ := means
    simp [excess?, IsWrong, positive, spells.eq_zero_iff]
  all_goals simp [excess?, IsWrong, positive]

/-- Zero is a meaning where it is out of range. -/
theorem exists_means_of_outOfRange {fault? : String → Option String} {var : Variable}
    {text : String} (wrong : IsWrong fault? var text .outOfRange) :
    ∃ value, Means fault? text var value := by
  obtain ⟨member, zero⟩ := wrong
  simp only [positive, List.mem_cons, List.not_mem_nil, or_false] at member
  rcases member with rfl | rfl | rfl
  · exact ⟨Span.ofMillis 0, 0, zero, Nat.zero_le _, rfl⟩
  · exact ⟨Span.ofMillis 0, 0, zero, Nat.zero_le _, rfl⟩
  · exact ⟨(0 : Nat), zero, Nat.zero_le _⟩

/-- A test finds a fault exactly if the variable has the defect that is looked for. -/
theorem test_fails_iff (fault? : String → Option String) (source : Source) (var : Variable)
    (defect : Defect) :
    (∃ fault, test fault? source (var, defect) = .error fault)
      ↔ HasDefect fault? source var defect := by
  rw [HasDefect]
  cases set : value? source var.name with
  | none => simp [test_usual fault? set]
  | some text =>
    have means := reading_eq_ok_iff fault? set
    simp only [Option.some.injEq, exists_eq_left']
    cases defect with
    | malformed =>
      simp only [test, IsWrong, ← means]
      cases reading fault? source var <;> simp [Except.map]
    | outOfRange =>
      cases read : reading fault? source var with
      | ok value =>
        rw [← exists_excess_iff ((means value).mp read)]
        simp only [test, effective, read]
        cases excess? var value <;> simp
      | error fault =>
        -- What cannot be read counts as unset here, and its text does not spell zero.
        simp only [test, effective, read, excess?_usual]
        refine iff_of_false (by simp) fun wrong => ?_
        obtain ⟨value, meant⟩ := exists_means_of_outOfRange wrong
        rw [(means value).mpr meant] at read
        cases read

end Variable

end GatewaySettings

end Gatehouse
