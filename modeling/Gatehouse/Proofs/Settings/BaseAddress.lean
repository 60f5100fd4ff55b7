import Gatehouse.Proofs.Settings.Loading
import Gatehouse.Proofs.Url.Extension

/-!
# The base address in use

A base address is judged by itself when settings are loaded, and kept as it was written. Later, each
call puts its path right behind it. So blanks that did not count when it was judged may count then.
-/
namespace Gatehouse.GatewaySettings

open Variable

variable {source : Source} {settings : GatewaySettings} {base : String}

theorem addressFault?_eq_none_iff (text : String) :
    addressFault? text = none ↔ Url.IsAddress text.toList := by
  unfold addressFault? Url.IsAddress
  cases Url.parse text.toList <;> simp

/-- A base address that is set is kept as it is once nothing speaks against it. -/
theorem baseUrl_of_load (loaded : load source = .ok settings)
    (set : source "HTTP_BASE_URL" = some base) (visible : Text.allBlank base.toList = false) :
    settings.http.baseUrl = some base ∧ Url.IsAddress base.toList := by
  have value : value? source "HTTP_BASE_URL" = some base := by simp [value?, set, visible]
  obtain ⟨passed, rfl⟩ := (loadUnder_eq_ok_iff addressFault? source settings).mp loaded
  have judged := passed (.httpBaseUrl, .malformed) (by simp [order, fallible])
  simp only [test, reading, baseUrl, value] at judged
  cases speaks : addressFault? base with
  | some reason =>
    rw [speaks] at judged
    cases judged
  | none =>
    refine ⟨?_, (addressFault?_eq_none_iff base).mp speaks⟩
    simp [assemble, effective, reading, baseUrl, value, speaks]

theorem kindOf_web {scheme : List Char} (web : scheme = "http".toList ∨ scheme = "https".toList) :
    Url.kindOf scheme = .web := by
  rcases web with rfl | rfl <;> decide

/-- A loaded base address is kept as it is written, and what it is with a path behind it is an
address unless blanks at its end come into its host or port. -/
theorem loaded_base_takes_path_iff {path : String} {call : CallOptions}
    (loaded : load source = .ok settings) (set : source "HTTP_BASE_URL" = some base)
    (visible : Text.allBlank base.toList = false)
    (web : Url.scheme? base.toList = some "http".toList
      ∨ Url.scheme? base.toList = some "https".toList)
    (plain : Url.IsPlainPath path.toList) (own : call.baseUrl = none) :
    settings.http.baseUrl = some base
      ∧ (addressFault? (settings.http.plan path call).url = none
        ↔ path = "" ∨ Url.trail base.toList = [] ∨ Url.IsPastHost base.toList) := by
  obtain ⟨kept, address⟩ := baseUrl_of_load loaded set visible
  refine ⟨kept, ?_⟩
  have sent : (settings.http.plan path call).url = base ++ path := by
    simp [ClientConfig.plan, resolveUrl, own, kept]
  obtain ⟨scheme, rest, split, kind⟩ : ∃ scheme rest,
      Url.splitScheme (Url.significant base.toList) = some (scheme, rest)
        ∧ Url.kindOf scheme = .web := by
    unfold Url.scheme? at web
    cases split : Url.splitScheme (Url.significant base.toList) with
    | none => simp [split] at web
    | some found =>
      refine ⟨found.1, found.2, rfl, kindOf_web ?_⟩
      simpa [split] using web
  rw [sent, addressFault?_eq_none_iff, String.toList_append,
    Url.isAddress_append_iff address split kind plain, String.toList_eq_nil_iff]

/-- Blanks in front and a line end behind do not come between a base address and a path. -/
theorem loaded_base_takes_path_of_padded :
    let source : Source := fun name =>
      if name = "HTTP_BASE_URL" then some "  http://[::1]:80\n" else none
    ∃ settings, load source = .ok settings
      ∧ settings.http.baseUrl = some "  http://[::1]:80\n"
      ∧ addressFault? (settings.http.plan "/api/v1" .none).url = none := by
  intro source
  obtain ⟨settings, loaded, -⟩ : ∃ settings, load source = .ok settings
      ∧ settings.http.baseUrl = some "  http://[::1]:80\n" :=
    exists_load (by decide +kernel)
  have plain : Url.IsPlainPath "/api/v1".toList :=
    ⟨["api".toList, "v1".toList], by decide, by simp⟩
  have counts : Url.trail "  http://[::1]:80\n".toList = [] := by decide
  have ⟨kept, taken⟩ := loaded_base_takes_path_iff loaded rfl (by decide) (.inl (by decide)) plain
    (rfl : CallOptions.none.baseUrl = none)
  exact ⟨settings, loaded, kept, taken.mpr (.inr (.inl counts))⟩

/-- A space behind a base address does not count until a path follows. -/
theorem loaded_base_refuses_path :
    let source : Source := fun name =>
      if name = "HTTP_BASE_URL" then some "http://cms " else none
    Url.IsPlainPath "/api".toList
      ∧ ∃ settings, load source = .ok settings ∧ settings.http.baseUrl = some "http://cms "
        ∧ addressFault? (settings.http.plan "/api" .none).url
          = some "invalid international domain name" := by
  intro source
  obtain ⟨settings, loaded, seen⟩ : ∃ settings, load source = .ok settings
      ∧ (settings.http.baseUrl, addressFault? (settings.http.plan "/api" .none).url)
        = (some "http://cms ", some "invalid international domain name") :=
    exists_load (by decide +kernel)
  rw [Prod.mk.injEq] at seen
  exact ⟨⟨["api".toList], by decide, by simp⟩, settings, loaded, seen⟩

end Gatehouse.GatewaySettings
