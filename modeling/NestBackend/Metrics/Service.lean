import NestBackend.Js.Number
import NestBackend.Js.Value

namespace NestBackend.Metrics

open NestBackend.Js

structure HttpObservation where
  method : String
  route : String
  statusCode : Number
  durationSeconds : Number
  requestBytes : Number
  responseBytes : Number

structure HttpLabels where
  method : String
  route : String
  status_code : String
  deriving DecidableEq

structure MetricsService where
  inFlightRequests : ℤ
  requestsTotal : List HttpLabels
  requestDuration : List (HttpLabels × Number)
  requestSizeBytes : List (HttpLabels × Number)
  responseSizeBytes : List (HttpLabels × Number)

def HttpObservation.labels (asString : Number → String) (observation : HttpObservation) :
    HttpLabels where
  method := observation.method
  route := observation.route
  status_code := asString observation.statusCode

namespace MetricsService

def start : MetricsService := ⟨0, [], [], [], []⟩

def invalid (amount : Number) : Bool := !amount.isFinite || amount.lt (.fin 0)

def record (asString : Number → String) (observation : HttpObservation) (m : MetricsService) :
    MetricsService :=
  let labels := observation.labels asString
  { m with
    requestsTotal := m.requestsTotal ++ [labels]
    requestDuration := m.requestDuration ++ [(labels, observation.durationSeconds)]
    requestSizeBytes := m.requestSizeBytes ++ [(labels, observation.requestBytes)]
    responseSizeBytes := m.responseSizeBytes ++ [(labels, observation.responseBytes)] }

def observeHttp (asString : Number → String) (observation : HttpObservation)
    (m : MetricsService) : Except Thrown MetricsService :=
  if invalid observation.durationSeconds then
    .error (.ofMessage ("Invalid durationSeconds: " ++ asString observation.durationSeconds))
  else if invalid observation.requestBytes || invalid observation.responseBytes then
    .error (.ofMessage ("Invalid byte sizes: " ++ asString observation.requestBytes ++ ", " ++
      asString observation.responseBytes))
  else .ok (m.record asString observation)

def trackInFlight (m : MetricsService) : MetricsService :=
  { m with inFlightRequests := m.inFlightRequests + 1 }

def untrackInFlight (m : MetricsService) : MetricsService :=
  { m with inFlightRequests := m.inFlightRequests - 1 }

theorem invalid_eq_false_iff {amount : Number} : invalid amount = false ↔ amount.IsAmount := by
  rw [Number.isAmount_iff, invalid, Bool.or_eq_false_iff, Bool.not_eq_false']

end MetricsService

structure HttpObservation.Valid (observation : HttpObservation) : Prop where
  durationSeconds : observation.durationSeconds.IsAmount
  requestBytes : observation.requestBytes.IsAmount
  responseBytes : observation.responseBytes.IsAmount

theorem observeHttp_of_valid {observation : HttpObservation} (h : observation.Valid)
    (asString : Number → String) (m : MetricsService) :
    m.observeHttp asString observation = .ok (m.record asString observation) := by
  simp [MetricsService.observeHttp, MetricsService.invalid_eq_false_iff.mpr h.durationSeconds,
    MetricsService.invalid_eq_false_iff.mpr h.requestBytes,
    MetricsService.invalid_eq_false_iff.mpr h.responseBytes]

end NestBackend.Metrics
