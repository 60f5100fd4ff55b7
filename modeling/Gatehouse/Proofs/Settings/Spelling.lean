import Gatehouse.Proofs.Settings.Loading
import Gatehouse.Proofs.Text.Trimming

/-!
# Spellings of one setting

Blanks around a value that is read do not count, and neither does the letter case of a word. So two
sources whose variables are spelled alike load the same settings or fail in the same way. Texts that
are kept as they are written have to be the same.
-/
namespace Gatehouse

/-- Faults of one kind that are told of one variable, whatever reasons they give. -/
inductive SettingsFault.SameKind : SettingsFault → SettingsFault → Prop
  | badUrl (name reason other : String) : SameKind (.badUrl name reason) (.badUrl name other)
  | unreadable (name reason other : String) :
      SameKind (.unreadable name reason) (.unreadable name other)
  | unacceptable (name reason other : String) :
      SameKind (.unacceptable name reason) (.unacceptable name other)

theorem SettingsFault.SameKind.refl (fault : SettingsFault) : fault.SameKind fault := by
  cases fault <;> constructor

namespace GatewaySettings

/-- The same value, or faults of one kind. -/
inductive SameReading {α : Type} : Reading α → Reading α → Prop
  | ok (value : α) : SameReading (.ok value) (.ok value)
  | error {fault other : SettingsFault} : fault.SameKind other →
      SameReading (.error fault) (.error other)

/-- The same meaning, or none. -/
inductive SameMeaning {α : Type} : Except String α → Except String α → Prop
  | ok (value : α) : SameMeaning (.ok value) (.ok value)
  | error (reason other : String) : SameMeaning (.error reason) (.error other)

/-! ## Readings that agree -/

theorem SameReading.of_eq {α : Type} {one other : Reading α} (same : one = other) :
    SameReading one other := by
  subst same
  cases one with
  | ok value => exact .ok value
  | error fault => exact .error (.refl fault)

theorem SameReading.bind {α β : Type} {one other : Reading α} (same : SameReading one other)
    {next after : α → Reading β} (further : ∀ value, SameReading (next value) (after value)) :
    SameReading (one >>= next) (other >>= after) := by
  cases same with
  | ok value => exact further value
  | error kind => exact .error kind

theorem SameReading.ok_of_ok {α : Type} {one other : Reading α} {value : α}
    (same : SameReading one other) (read : one = .ok value) : other = .ok value := by
  subst read
  cases same
  rfl

theorem SameMeaning.of_eq {α : Type} {one other : Except String α} (same : one = other) :
    SameMeaning one other := by
  subst same
  cases one with
  | ok value => exact .ok value
  | error reason => exact .error reason reason

/-- A variable that is unset in both sources, or set to texts that mean the same, is read alike. -/
theorem read_alike {α : Type} {source other : Source} {name : String} (fallback : α)
    {meaning : String → Except String α} {related : String → String → Prop}
    (values : Option.Rel related (value? source name) (value? other name))
    (means : ∀ left right, related left right →
      SameMeaning (meaning (Text.trimmed left)) (meaning (Text.trimmed right))) :
    SameReading (read source name fallback meaning) (read other name fallback meaning) := by
  unfold read
  generalize value? source name = one at values ⊢
  generalize value? other name = another at values ⊢
  -- Unset in both, or set to related texts in both.
  cases values with
  | none => exact .ok fallback
  | @some left right same =>
    dsimp only
    have meant := means left right same
    generalize meaning (Text.trimmed left) = first at meant ⊢
    generalize meaning (Text.trimmed right) = second at meant ⊢
    cases meant with
    | ok value => exact .ok value
    | error reason reason' => exact .error (.unreadable name reason reason')

/-! ## Words in any letter case -/

theorem levelOf_alike {one other : String} (same : Text.lowered one = Text.lowered other) :
    SameMeaning (levelOf one) (levelOf other) := by
  have parsed : Level.parse? one = Level.parse? other := by
    rw [Level.parse?, Level.parse?, Text.lowered_trimmed, Text.lowered_trimmed, same]
  unfold levelOf
  rw [parsed]
  cases Level.parse? other with
  | some level => exact .ok level
  | none => exact .error _ _

theorem formatOf_alike {one other : String} (same : Text.lowered one = Text.lowered other) :
    SameMeaning (formatOf one) (formatOf other) := by
  have simplified : LogFormat.simplified one = LogFormat.simplified other := by
    rw [LogFormat.simplified, LogFormat.simplified, Text.lowered_trimmed, Text.lowered_trimmed,
      same]
  unfold formatOf
  rw [LogFormat.parse?, LogFormat.parse?, simplified]
  cases LogFormat.ofName? (LogFormat.simplified other) with
  | some format => exact .ok format
  | none => exact .error _ _

theorem boolOf_alike {one other : String} (same : Text.lowered one = Text.lowered other) :
    SameMeaning (boolOf one) (boolOf other) := by
  apply SameMeaning.of_eq
  unfold boolOf
  rw [same]

namespace Variable

/-- What makes no difference between two values of a variable. -/
inductive Leeway
  | nothing
  | blanks
  | blanksAndCase

def leeway : Variable → Leeway
  | .appName | .logDir | .httpUserAgent | .httpBaseUrl => .nothing
  | .logLevel | .logFormat | .logColors | .logToFile => .blanksAndCase
  | .logMaxFileSize | .logMaxFileAgeDays | .httpTimeout | .httpRetries | .httpRetryDelay
  | .httpConnectTimeout => .blanks

/-- Texts that are the same but for what makes no difference. -/
def Leeway.Same : Leeway → String → String → Prop
  | .nothing, one, other => one = other
  | .blanks, one, other => Text.trimmed one = Text.trimmed other
  | .blanksAndCase, one, other => Text.SameLetters (Text.trimmed one) (Text.trimmed other)

/-- A value that counts as unset: none, or one of blanks. -/
def IsBlank (value : Option String) : Prop := ∀ text ∈ value, Text.allBlank text.toList = true

/-- Values of a variable that are both as good as unset, or the same but for what makes no
difference to this variable. -/
def SpelledAlike (var : Variable) (one other : Option String) : Prop :=
  IsBlank one ∧ IsBlank other
    ∨ ∃ left right, one = some left ∧ other = some right ∧ var.leeway.Same left right

/-! ## Values of one variable -/

/-- What makes no difference does not make a text blank. -/
theorem Leeway.Same.allBlank {leeway : Leeway} {one other : String} (same : leeway.Same one other) :
    Text.allBlank one.toList = Text.allBlank other.toList := by
  rw [Bool.eq_iff_iff, ← Text.trim_eq_nil_iff, ← Text.trim_eq_nil_iff]
  cases leeway with
  | nothing =>
    obtain rfl : one = other := same
    rfl
  | blanks => rw [(Text.trimmed_eq_iff one other).mp same]
  | blanksAndCase =>
    -- Letter by letter means of one length.
    have lengths := List.Forall₂.length_eq same
    simp only [Text.trimmed, String.toList_ofList] at lengths
    rw [← List.length_eq_zero_iff, ← List.length_eq_zero_iff, lengths]

theorem value?_of_isBlank {source : Source} {name : String} (blank : IsBlank (source name)) :
    value? source name = none := by
  rw [value?, Option.filter_eq_none_iff]
  intro text held
  simp [blank text held]

theorem values_alike {var : Variable} {source other : Source}
    (alike : var.SpelledAlike (source var.name) (other var.name)) :
    Option.Rel var.leeway.Same (value? source var.name) (value? other var.name) := by
  rcases alike with ⟨here, there⟩ | ⟨left, right, here, there, same⟩
  · rw [value?_of_isBlank here, value?_of_isBlank there]
    exact .none
  · rw [value?, value?, here, there, Option.filter_some, Option.filter_some, same.allBlank]
    split
    · exact .some same
    · exact .none

theorem value?_eq_of_verbatim {var : Variable} (verbatim : var.leeway = .nothing)
    {source other : Source} (alike : var.SpelledAlike (source var.name) (other var.name)) :
    value? source var.name = value? other var.name := by
  have values := values_alike alike
  rw [verbatim] at values
  generalize value? source var.name = one at values ⊢
  generalize value? other var.name = another at values ⊢
  cases values with
  | none => rfl
  | some same => exact congrArg some same

/-- A variable that says the same in two sources is read alike from them. -/
theorem reading_alike (fault? : String → Option String) {var : Variable} {source other : Source}
    (alike : var.SpelledAlike (source var.name) (other var.name)) :
    SameReading (reading fault? source var) (reading fault? other var) := by
  have values := values_alike alike
  -- Numbers and spans are read from the trimmed text, and words from that in lower case.
  have trimmed {α : Type} (meaning : String → Except String α) (left right : String)
      (same : Text.trimmed left = Text.trimmed right) :
      SameMeaning (meaning (Text.trimmed left)) (meaning (Text.trimmed right)) :=
    .of_eq (congrArg meaning same)
  have word {left right : String} (same : Leeway.blanksAndCase.Same left right) :
      Text.lowered (Text.trimmed left) = Text.lowered (Text.trimmed right) :=
    (Text.sameLetters_iff _ _).mp same
  have verbatim (same : var.leeway = .nothing) :
      SameReading (reading fault? source var) (reading fault? other var) :=
    .of_eq (reading_congr fault? (value?_eq_of_verbatim same alike))
  cases var
  case appName => exact verbatim rfl
  case logDir => exact verbatim rfl
  case httpUserAgent => exact verbatim rfl
  case httpBaseUrl => exact verbatim rfl
  all_goals simp only [reading, name] at values ⊢
  case logLevel => exact read_alike _ values fun _ _ same => levelOf_alike (word same)
  case logFormat => exact read_alike _ values fun _ _ same => formatOf_alike (word same)
  case logColors => exact read_alike _ values fun _ _ same => boolOf_alike (word same)
  case logToFile => exact read_alike _ values fun _ _ same => boolOf_alike (word same)
  all_goals exact read_alike _ values (trimmed _)

theorem effective_alike (fault? : String → Option String) {var : Variable} {source other : Source}
    (alike : var.SpelledAlike (source var.name) (other var.name)) :
    effective fault? source var = effective fault? other var := by
  have read := reading_alike fault? alike
  unfold effective
  generalize reading fault? source var = one at read ⊢
  generalize reading fault? other var = another at read ⊢
  cases read <;> rfl

/-! ## All variables -/

section

variable (fault? : String → Option String) {source other : Source}

theorem test_alike (alike : ∀ var : Variable, var.SpelledAlike (source var.name) (other var.name))
    (case : Variable × Defect) :
    SameReading (test fault? source case) (test fault? other case) := by
  obtain ⟨var, defect⟩ := case
  cases defect with
  | malformed =>
    exact (reading_alike fault? (alike var)).bind fun _ => .ok ()
  | outOfRange =>
    apply SameReading.of_eq
    simp only [test, effective_alike fault? (alike var)]

theorem testAll_alike
    (alike : ∀ var : Variable, var.SpelledAlike (source var.name) (other var.name))
    (cases : List (Variable × Defect)) :
    SameReading (testAll fault? source cases) (testAll fault? other cases) := by
  -- On the row of tests: the first one that fails is the same in both.
  induction cases with
  | nil => exact .ok ()
  | cons case rest ih => exact (test_alike fault? alike case).bind fun _ => ih

theorem loadUnder_alike
    (alike : ∀ var : Variable, var.SpelledAlike (source var.name) (other var.name)) :
    SameReading (loadUnder fault? source) (loadUnder fault? other) := by
  have inEffect : effective fault? source = effective fault? other :=
    funext fun var => effective_alike fault? (alike var)
  rw [loadUnder_eq, loadUnder_eq, inEffect]
  exact (testAll_alike fault? alike order).bind fun _ => .ok _

end

/-- Only the fourteen variables are looked up. -/
theorem loadUnder_congr (fault? : String → Option String) {source other : Source}
    (same : ∀ var : Variable, source var.name = other var.name) :
    loadUnder fault? source = loadUnder fault? other := by
  -- What is read of a variable depends on its own value only, and so do the tests.
  have read : ∀ var, reading fault? source var = reading fault? other var := by
    intro var
    apply reading_congr
    rw [value?, value?, same var]
  have tests : ∀ cases, testAll fault? source cases = testAll fault? other cases := by
    intro cases
    induction cases with
    | nil => rfl
    | cons case rest ih => rw [testAll, testAll, test_congr fault? (read case.1) case.2, ih]
  have inEffect : effective fault? source = effective fault? other := by
    funext var
    simp only [effective, read var]
  rw [loadUnder_eq, loadUnder_eq, tests, inEffect]

theorem totalNanos_pos {span : Span} (some_ : span.isZero = false) : 0 < span.totalNanos := by
  simp only [Span.isZero, Bool.and_eq_false_iff, beq_eq_false_iff_ne, ne_eq] at some_
  unfold Span.totalNanos
  omega

/-- What is tested for its range is within it when the test is passed. -/
theorem excess?_of_test {fault? : String → Option String} {source : Source} {var : Variable}
    (passed : test fault? source (var, .outOfRange) = .ok ()) :
    excess? var (effective fault? source var) = none := by
  simp only [test] at passed
  split at passed
  next within => exact within
  next => cases passed

/-- What may not be zero is not zero in settings that load, and the name is not blank. -/
theorem bounds_of_loadUnder {fault? : String → Option String} {source : Source}
    {settings : GatewaySettings} (loaded : loadUnder fault? source = .ok settings) :
    0 < settings.http.timeout.totalNanos ∧ 0 < settings.http.connectTimeout.totalNanos
      ∧ 0 < settings.log.maxFileSize ∧ Text.allBlank settings.log.app.toList = false := by
  obtain ⟨passed, rfl⟩ := (loadUnder_eq_ok_iff fault? source settings).mp loaded
  -- Three of the tests that were passed are for zeros.
  have timeout := excess?_of_test (passed (.httpTimeout, .outOfRange) (by simp [order, positive]))
  have connect :=
    excess?_of_test (passed (.httpConnectTimeout, .outOfRange) (by simp [order, positive]))
  have size := excess?_of_test (passed (.logMaxFileSize, .outOfRange) (by simp [order, positive]))
  simp only [excess?, ite_eq_right_iff, reduceCtorEq, imp_false, Bool.not_eq_true]
    at timeout connect size
  exact ⟨totalNanos_pos timeout, totalNanos_pos connect, Nat.pos_of_ne_zero size,
    appName_not_blank fault? source⟩

/-- Spelling that makes no difference makes none, whatever texts count as addresses. Sources whose
fourteen variables are spelled alike load the same settings, or fail with faults of one kind that
are told of one variable. No other variable is looked up. Settings that load have timeouts and a file
size that are not zero and a name that is not blank. -/
theorem loading_ignores_spelling (fault? : String → Option String) {source other : Source}
    (alike : ∀ var : Variable, var.SpelledAlike (source var.name) (other var.name)) :
    SameReading (loadUnder fault? source) (loadUnder fault? other)
      ∧ (∀ third : Source, (∀ var : Variable, third var.name = source var.name) →
          loadUnder fault? third = loadUnder fault? source)
      ∧ ∀ settings, loadUnder fault? source = .ok settings →
          0 < settings.http.timeout.totalNanos ∧ 0 < settings.http.connectTimeout.totalNanos
            ∧ 0 < settings.log.maxFileSize ∧ Text.allBlank settings.log.app.toList = false :=
  ⟨loadUnder_alike fault? alike, fun _ same => loadUnder_congr fault? same,
    fun _ loaded => bounds_of_loadUnder loaded⟩

/-- Padded and recased values, and a blank one beside none, load the same settings. -/
theorem loading_ignores_spelling_of_padded :
    let source : Source := fun name =>
      if name = "LOG_LEVEL" then some " DEBUG\u00a0" else if name = "LOG_COLORS" then some "No"
      else if name = "HTTP_RETRIES" then some "\t+5\n" else if name = "APP_NAME" then some " a "
      else none
    let other : Source := fun name =>
      if name = "LOG_LEVEL" then some "Debug" else if name = "LOG_COLORS" then some " nO"
      else if name = "HTTP_RETRIES" then some "+5" else if name = "APP_NAME" then some " a "
      else if name = "LOG_DIR" then some "\u3000" else none
    (∀ var : Variable, var.SpelledAlike (source var.name) (other var.name))
      ∧ ∃ settings, load source = .ok settings ∧ load other = .ok settings
        ∧ settings.log.level = .debug ∧ settings.http.retries = 5 := by
  intro source other
  have alike : ∀ var : Variable, var.SpelledAlike (source var.name) (other var.name) := by
    intro var
    cases var
    case appName => exact .inr ⟨" a ", " a ", rfl, rfl, rfl⟩
    case logLevel =>
      exact .inr ⟨" DEBUG\u00a0", "Debug", rfl, rfl, (Text.sameLetters_iff _ _).mpr (by decide)⟩
    case logColors => exact .inr ⟨"No", " nO", rfl, rfl, (Text.sameLetters_iff _ _).mpr (by decide)⟩
    case httpRetries =>
      have trimmed : Text.trimmed "\t+5\n" = Text.trimmed "+5" := by decide
      exact .inr ⟨"\t+5\n", "+5", rfl, rfl, trimmed⟩
    case logDir =>
      have blank : Text.allBlank "\u3000".toList = true := by decide
      exact .inl ⟨by simp [IsBlank, source, name], by simpa [IsBlank, other, name] using blank⟩
    all_goals exact .inl ⟨by simp [IsBlank, source, name], by simp [IsBlank, other, name]⟩
  obtain ⟨settings, loaded, seen⟩ : ∃ settings, load source = .ok settings
      ∧ (settings.log.level, settings.http.retries) = (.debug, 5) :=
    exists_load (by decide +kernel)
  rw [Prod.mk.injEq] at seen
  have same := (loading_ignores_spelling addressFault? alike).1
  exact ⟨alike, settings, loaded, same.ok_of_ok loaded, seen⟩

end Variable

end GatewaySettings

end Gatehouse
