import ProbeReport.Proofs.Sink
import ProbeReport.Run

namespace ProbeReport.Run

section Steps

variable {α β : Type}

theorem run_bind (x : Step α) (f : α → Step β) (j : Journal) :
    (x >>= f).run j =
      match x.run j with
      | (.ok a, j) => (f a).run j
      | (.error e, j) => (.error e, j) := by
  have h : (x >>= f).run j = (match x.run j with | (r, j) => ExceptT.bindCont f r j) := rfl
  rw [h]
  rcases x.run j with ⟨r, j⟩
  cases r <;> rfl

theorem run_get (j : Journal) : (get : Step Journal).run j = (.ok j, j) := rfl

theorem run_set (next j : Journal) : (set next : Step PUnit).run j = (.ok ⟨⟩, next) := rfl

theorem run_log (e : Log.Event) (j : Journal) :
    (log e).run j = (.ok (), { j with events := j.events ++ [e] }) := rfl

theorem run_onSink (operation : Sink → Except IoError Unit × Sink) (j : Journal) :
    (onSink operation).run j =
      ((operation j.sink).1.mapError .io, { j with sink := (operation j.sink).2 }) := by
  simp only [onSink, run_bind, run_get, run_set]
  cases (operation j.sink).1 <;> rfl

theorem run_write (text : String) (j : Journal) :
    (write text).run j =
      (if j.sink.Fits (utf8 text).length then .ok () else .error (.io j.sink.refusal),
        { j with sink := j.sink.extend (utf8 text) }) := by
  rw [write, run_onSink, Sink.write_eq]
  split <;> rfl

theorem run_flush (j : Journal) :
    flush.run j =
      (if j.sink.flushFails then .error (.io (.custom .other "flush failed")) else .ok (),
        { j with sink := { j.sink with flushes := j.sink.flushes + 1 } }) := by
  rw [flush, run_onSink, Sink.flush]
  split <;> rfl

end Steps

-- What a run does before it comes to its end, one thing at a time.
inductive Action where
  | log (e : Log.Event)
  | write (text : String)
  | ask (requests : List Http.Request)

namespace Action

def perform : Action → Step Unit
  | .log e => Run.log e
  | .write text => Run.write text
  | .ask requests => modify fun j => { j with requests := j.requests ++ requests }

def output : Action → List UInt8
  | .write text => utf8 text
  | _ => []

def requests : Action → List Http.Request
  | .ask requests => requests
  | _ => []

def events : Action → List Log.Event
  | .log e => [e]
  | _ => []

end Action

def performAll (actions : List Action) : Step Unit := actions.forM Action.perform

def outputOf (actions : List Action) : List UInt8 := actions.flatMap Action.output

-- The actions that come before the first text that a sink cannot take as a whole.
def reached (s : Sink) : List Action → List Action
  | [] => []
  | a :: rest => if s.Fits a.output.length then a :: reached (s.extend a.output) rest else []

-- A journal after some more actions. What is not reached leaves no trace but the part of a
-- text that still fits.
def Journal.extend (j : Journal) (actions : List Action) : Journal :=
  { sink := j.sink.extend (outputOf actions)
    requests := j.requests ++ (reached j.sink actions).flatMap Action.requests
    events := j.events ++ (reached j.sink actions).flatMap Action.events }

theorem performAll_cons (a : Action) (rest : List Action) :
    performAll (a :: rest) = (do a.perform; performAll rest) := rfl

theorem performAll_append (first second : List Action) :
    performAll (first ++ second) = (do performAll first; performAll second) :=
  List.forM_append

theorem performAll_writes (parts : List String) :
    performAll (parts.map .write) = writeParts parts := by
  simp only [performAll, writeParts, List.forM_eq_forM, List.forM_map]
  rfl

theorem outputOf_writes (parts : List String) :
    outputOf (parts.map .write) = utf8 (String.join parts) := by
  rw [utf8_join, outputOf, List.flatMap_map]
  rfl

theorem outputOf_cons (a : Action) (rest : List Action) :
    outputOf (a :: rest) = a.output ++ outputOf rest := rfl

theorem outputOf_append (first second : List Action) :
    outputOf (first ++ second) = outputOf first ++ outputOf second :=
  List.flatMap_append

namespace Journal

variable {j : Journal} {a : Action}

theorem extend_nil (j : Journal) : j.extend [] = j := by
  simp [extend, outputOf, reached]

theorem extend_cons_of_fits (rest : List Action) (h : j.sink.Fits a.output.length) :
    j.extend (a :: rest) = (j.extend [a]).extend rest := by
  simp only [extend, outputOf, reached, h, if_true, List.flatMap_cons, List.flatMap_nil,
    List.append_nil, Sink.extend_append, List.append_assoc]

-- Nothing is reached behind a text that does not fit.
theorem extend_cons_of_not_fits (rest : List Action) (h : ¬j.sink.Fits a.output.length) :
    j.extend (a :: rest) = j.extend [a] := by
  have hs : (j.sink.extend a.output).extend (outputOf rest) = j.sink.extend a.output := by
    rw [Sink.extend, Sink.fitting_extend_of_not_fits h, List.append_nil]
  simp only [outputOf] at hs
  simp only [extend, outputOf, reached, h, if_false, List.flatMap_cons, List.flatMap_nil,
    List.append_nil, Sink.extend_append, hs]

end Journal

theorem run_perform (a : Action) (j : Journal) :
    a.perform.run j =
      (if j.sink.Fits a.output.length then .ok () else .error (.io j.sink.refusal),
        j.extend [a]) := by
  cases a with
  | write text =>
      rw [Action.perform, run_write]
      by_cases h : j.sink.Fits (utf8 text).length <;>
        simp [Journal.extend, reached, outputOf, Action.output, Action.requests, Action.events, h]
  | log e =>
      have h := j.sink.fits_nil
      rw [Action.perform, run_log]
      simp only [List.length_nil] at h
      simp [Journal.extend, reached, outputOf, Action.output, Action.requests, Action.events, h]
  | ask requests =>
      have h := j.sink.fits_nil
      have hr : (Action.ask requests).perform.run j =
          (.ok (), { j with requests := j.requests ++ requests }) := rfl
      rw [hr]
      simp only [List.length_nil] at h
      simp [Journal.extend, reached, outputOf, Action.output, Action.requests, Action.events, h]

-- Actions that are performed one after another act like all of them at once: everything
-- happens when their output fits, and else everything up to the text that does not fit.
theorem run_performAll (actions : List Action) (j : Journal) :
    (performAll actions).run j =
      (if j.sink.Fits (outputOf actions).length then .ok () else .error (.io j.sink.refusal),
        j.extend actions) := by
  induction actions generalizing j with
  | nil =>
      have ho : outputOf [] = [] := rfl
      rw [Journal.extend_nil, ho, if_pos j.sink.fits_nil]
      rfl
  | cons a rest ih =>
      rw [performAll_cons, outputOf_cons, run_bind, run_perform]
      by_cases h : j.sink.Fits a.output.length
      · have hs : (j.extend [a]).sink = j.sink.extend a.output := by
          simp [Journal.extend, outputOf]
        simp only [h, if_true, ih, hs, Sink.fits_append, true_and, Sink.refusal_extend,
          Journal.extend_cons_of_fits rest h]
      · simp only [h, if_false, Sink.fits_append, false_and,
          Journal.extend_cons_of_not_fits rest h]

-- The whole of a run: what it does, and the failure to decode that it ends with, if any.
structure Course where
  body : List Action
  failure : Option DecodeError

namespace Course

def closing : Option DecodeError → Log.Event
  | none => finishEvent
  | some error => abortEvent error

def verdict : Option DecodeError → Except Error Unit
  | none => .ok ()
  | some error => .error (.decode error)

-- The end of a run comes after everything has been flushed.
def finish (failure : Option DecodeError) : Step Unit := do
  flush
  log (closing failure)
  match verdict failure with
  | .ok () => pure ()
  | .error e => throw e

def perform (c : Course) : Step Unit := do
  performAll c.body
  finish c.failure

-- Nothing happens behind the end of a run that failed.
theorem finish_failure_bind (error : DecodeError) (next : Step Unit) :
    (do finish (some error); next) = finish (some error) := by
  simp only [finish, verdict, bind_assoc]
  rfl

-- How a course ends on a sink. A refused write wins over a failed flush, and this one over
-- what was to be told at the end.
def outcome (c : Course) (s : Sink) : Except Error Unit :=
  if s.Fits (outputOf c.body).length then
    if s.flushFails then .error (.io (.custom .other "flush failed")) else verdict c.failure
  else .error (.io s.refusal)

theorem run_finish (failure : Option DecodeError) (j : Journal) :
    ((finish failure).run j).1 =
        (if j.sink.flushFails then .error (.io (.custom .other "flush failed"))
          else verdict failure) ∧
      ((finish failure).run j).2.sink.bytes = j.sink.bytes ∧
      ((finish failure).run j).2.requests = j.requests := by
  simp only [finish, run_bind, run_flush, run_log]
  cases j.sink.flushFails <;> cases failure <;> exact ⟨rfl, rfl, rfl⟩

theorem run_perform (c : Course) (j : Journal) :
    (c.perform.run j).1 = c.outcome j.sink ∧
      (c.perform.run j).2.sink.bytes = (j.sink.extend (outputOf c.body)).bytes ∧
      (c.perform.run j).2.requests = (j.extend c.body).requests := by
  simp only [perform, run_bind, run_performAll, outcome]
  by_cases h : j.sink.Fits (outputOf c.body).length
  · simp only [if_pos h]
    exact run_finish c.failure (j.extend c.body)
  · simp [h, Journal.extend]

theorem events_finish (failure : Option DecodeError) (j : Journal) :
    ((finish failure).run j).2.events =
      j.events ++ if j.sink.flushFails = false then [closing failure] else [] := by
  simp only [finish, run_bind, run_flush, run_log]
  cases j.sink.flushFails with
  | true => exact (List.append_nil _).symm
  | false => cases failure <;> rfl

-- The last event is only told when nothing was refused before it.
theorem events_perform (c : Course) (j : Journal) :
    (c.perform.run j).2.events =
      (j.extend c.body).events ++
        if j.sink.Fits (outputOf c.body).length ∧ j.sink.flushFails = false then
          [closing c.failure]
        else [] := by
  simp only [perform, run_bind, run_performAll]
  by_cases h : j.sink.Fits (outputOf c.body).length
  · simp only [h, if_true, true_and]
    exact events_finish c.failure (j.extend c.body)
  · simp [h]

end Course

end ProbeReport.Run
