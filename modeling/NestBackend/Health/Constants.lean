import Mathlib.Data.List.DropRight
import Mathlib.Data.String.Basic

namespace NestBackend.Health

def LIVE_SUBPATH : String := "live"

def READY_SUBPATH : String := "ready"

def HEALTH_PREFIX : String := "/health"

def LIVE_PATH : String := HEALTH_PREFIX ++ "/" ++ LIVE_SUBPATH

def READY_PATH : String := HEALTH_PREFIX ++ "/" ++ READY_SUBPATH

def HEALTH_PROBE_PATHS : List String := [LIVE_PATH, READY_PATH]

/-- `path.replace(/\/+$/, '')`. -/
def stripTrailingSlashes (path : String) : String :=
  String.ofList (path.toList.rdropWhile (· == '/'))

/-- `parsePathname url` is `new URL(url, 'http://localhost').pathname`, `none` where the
constructor throws. -/
def isHealthRequest (parsePathname : String → Option String) : Option String → Bool
  | none => false
  | some url =>
    if url = "" then false
    else
      match parsePathname url with
      | none => false
      | some path =>
        let stripped := stripTrailingSlashes path
        HEALTH_PROBE_PATHS.contains (if stripped = "" then "/" else stripped)

theorem rdropWhile_slashes {pre : List Char} {c : Char} (hc : c ≠ '/') (n : Nat) :
    (pre ++ [c] ++ List.replicate n '/').rdropWhile (· == '/') = pre ++ [c] := by
  induction n with
  | zero => simpa using List.rdropWhile_concat_neg (· == '/') pre c (by simpa using hc)
  | succ n ih =>
    rw [List.replicate_succ', ← List.append_assoc, List.rdropWhile_concat_pos _ _ _ (by simp), ih]

theorem stripTrailingSlashes_eq_iff (path : String) {probe : String} {pre : List Char} {c : Char}
    (hprobe : probe.toList = pre ++ [c]) (hc : c ≠ '/') :
    stripTrailingSlashes path = probe ↔
      ∃ n, path.toList = probe.toList ++ List.replicate n '/' := by
  rw [← String.toList_inj, stripTrailingSlashes, String.toList_ofList]
  constructor
  · intro h
    refine ⟨(path.toList.rtakeWhile (· == '/')).length, ?_⟩
    have hall : ∀ d ∈ path.toList.rtakeWhile (· == '/'), d = '/' := fun d hd => by
      simpa using List.mem_rtakeWhile_imp hd
    rw [← List.eq_replicate_of_mem hall, ← h, List.rdropWhile_append_rtakeWhile]
  · rintro ⟨n, h⟩
    rw [h, hprobe, rdropWhile_slashes hc]

def IsProbePath (path : String) : Prop :=
  ∃ probe ∈ HEALTH_PROBE_PATHS, ∃ n, path.toList = probe.toList ++ List.replicate n '/'

theorem contains_stripped_iff (path : String) : HEALTH_PROBE_PATHS.contains
    (if stripTrailingSlashes path = "" then "/" else stripTrailingSlashes path) = true ↔
      IsProbePath path := by
  have hlive : stripTrailingSlashes path = LIVE_PATH ↔ _ :=
    stripTrailingSlashes_eq_iff path
      (show LIVE_PATH.toList = "/health/liv".toList ++ ['e'] from rfl) (by decide)
  have hready : stripTrailingSlashes path = READY_PATH ↔ _ :=
    stripTrailingSlashes_eq_iff path
      (show READY_PATH.toList = "/health/read".toList ++ ['y'] from rfl) (by decide)
  have hmem : IsProbePath path ↔
      stripTrailingSlashes path = LIVE_PATH ∨ stripTrailingSlashes path = READY_PATH := by
    rw [hlive, hready]
    simp [IsProbePath, HEALTH_PROBE_PATHS]
  rw [hmem]
  by_cases hempty : stripTrailingSlashes path = ""
  · rw [if_pos hempty, hempty]
    decide
  · rw [if_neg hempty]
    simp [HEALTH_PROBE_PATHS]

theorem isHealthRequest_iff (parsePathname : String → Option String) (url : Option String) :
    isHealthRequest parsePathname url = true ↔
      ∃ u path, url = some u ∧ u ≠ "" ∧ parsePathname u = some path ∧ IsProbePath path := by
  cases url with
  | none => simp [isHealthRequest]
  | some u =>
    by_cases hu : u = ""
    · simp [isHealthRequest, hu]
    · cases hpath : parsePathname u with
      | none => simp [isHealthRequest, hu, hpath]
      | some path => simp [isHealthRequest, hu, hpath, ← contains_stripped_iff]

end NestBackend.Health
