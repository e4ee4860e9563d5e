import Noyra.Wallet.System
import Noyra.Proofs.Writes

/-!
# What a step can do to the system

The inversion of `step`: which call moves, what the outside world learns, and which transaction commits.
Everything later is checked against these cases.
-/

namespace Noyra.Wallet.Proofs
open Noyra.Lib

variable {cfg : Config} {db : DB}

/-- Calls as they start. -/
inductive Opening (db : DB) : Call → Prop
  | preparing {orderId subjectId : Id} {actor : String} {policyVersion : Nat} {attempt : Attempt} :
      Opening db (.preparing orderId subjectId actor policyVersion attempt)
  | looking {e : ExecutionRow} {actor : String} {retry : Option (String × Nat)} :
      e ∈ db.executions → Opening db (.looking e actor retry)

/-- What is said of an attempt that the dispatch gate does not let through. -/
def withheldAnswers : List SignerAnswer := [.dispatchDenied, .exception, .operationInvalidated]

/-- The cases of a step. -/
inductive Event (cfg : Config) (s : Sys) : Action → Sys → Prop
  | idle {a : Action} : Event cfg s a s
  | store {r : Readings} {op : StoreOp} {db' : DB} : op.run cfg s.db r = .ok db' →
      Event cfg s (.store r op) { s with db := db' }
  | called {a : Action} {c : Call} : Opening s.db c → Event cfg s a { s with calls := s.calls ++ [c] }
  | ended {a : Action} {i : Nat} : Event cfg s a { s with calls := s.calls.set i .done }
  | prepared {i : Nat} {r : Readings} {orderId subjectId : Id} {actor : String} {policyVersion : Nat}
      {attempt : Attempt} {p : Prepared} {db' : DB} :
      s.calls[i]? = some (.preparing orderId subjectId actor policyVersion attempt) →
      prepare cfg s.db r orderId subjectId actor attempt = .ok (p, db') →
      Event cfg s (.prepare i r)
        { s with db := db', calls := s.calls.set i (.signing ⟨attempt.retry, p, policyVersion, actor⟩) }
  | handed {i : Nat} {r : Reading} {d : Dispatch} : s.calls[i]? = some (.signing d) →
      authorize cfg s.db r d = .ok () →
      Event cfg s (.dispatch i r)
        { s with
          calls := s.calls.set i (.handed d)
          handed := s.handed ++ [⟨d.prepared.execution.orderId, d.prepared.requestId, d.prepared.transfer⟩] }
  | withheld {a : Action} {i : Nat} {d : Dispatch} {answer : SignerAnswer} : s.calls[i]? = some (.signing d) →
      answer ∈ withheldAnswers →
      Event cfg s a
        { s with
          calls := s.calls.set i (d.decide answer)
          rejected := if answer.rejects then s.rejected ++ [d.request] else s.rejected }
  | lost {i : Nat} {r : Readings} {d : Dispatch} {answer : SignerAnswer} : s.calls[i]? = some (.handed d) →
      markFor d answer = none →
      Event cfg s (.answer i r answer) { s.hear d answer with calls := s.calls.set i .done }
  | answered {i : Nat} {r : Readings} {d : Dispatch} {answer : SignerAnswer} {mark : Mark} {row : ExecutionRow}
      {db' : DB} : s.calls[i]? = some (.handed d) → markFor d answer = some mark →
      mark.apply cfg s.db r d.prepared.execution.executionId d.prepared.execution.subjectId d.actor = .ok (row, db') →
      Event cfg s (.answer i r answer) { s.hear d answer with db := db', calls := s.calls.set i .done }
  | unanswered {i : Nat} {r : Readings} {d : Dispatch} {answer : SignerAnswer} {mark : Mark} {error : PyError} :
      s.calls[i]? = some (.handed d) → markFor d answer = some mark →
      mark.apply cfg s.db r d.prepared.execution.executionId d.prepared.execution.subjectId d.actor = .error error →
      Event cfg s (.answer i r answer)
        { s.hear d answer with
          calls := s.calls.set i
            (afterError d.prepared.execution.executionId d.prepared.execution.subjectId d.actor mark error) }
  | looked {i : Nat} {clock : Time} {reply : String → ReceiptReply} {e : ExecutionRow} {actor : String}
      {retry : Option (String × Nat)} {found : Option WalletReceipt × Option String} :
      s.calls[i]? = some (.looking e actor retry) → lookupReceipt cfg s.db e reply = .ok found →
      Event cfg s (.lookup i clock reply)
        { s with
          calls := s.calls.set i (afterLookup cfg e actor retry clock found)
          receipts := s.receipts ++ (found.1.map (fun receipt => (e.executionId, receipt))).toList }
  | marked {i : Nat} {r : Readings} {executionId subjectId : Id} {actor : String} {mark : Mark} {row : ExecutionRow}
      {db' : DB} : s.calls[i]? = some (.deciding executionId subjectId actor mark) →
      mark.apply cfg s.db r executionId subjectId actor = .ok (row, db') →
      Event cfg s (.mark i r) { s with db := db', calls := s.calls.set i .done }
  | unmarked {i : Nat} {r : Readings} {executionId subjectId : Id} {actor : String} {mark : Mark} {error : PyError} :
      s.calls[i]? = some (.deciding executionId subjectId actor mark) →
      mark.apply cfg s.db r executionId subjectId actor = .error error →
      Event cfg s (.mark i r)
        { s with calls := s.calls.set i (afterError executionId subjectId actor mark error) }
  | crashed : Event cfg s .crash { s with calls := [] }

theorem dispatch_event {s : Sys} {i : Nat} {r : Reading} {d : Dispatch} (hi : s.calls[i]? = some (.signing d)) :
    Event cfg s (.dispatch i r) (s.dispatch cfg i r d) := by
  unfold Sys.dispatch
  split
  · next heq => exact .handed hi heq
  · exact .withheld hi (show SignerAnswer.dispatchDenied ∈ withheldAnswers by simp [withheldAnswers])
  · exact .withheld hi (show SignerAnswer.exception ∈ withheldAnswers by simp [withheldAnswers])

theorem answer_event {s : Sys} {i : Nat} {r : Readings} {d : Dispatch} {answer : SignerAnswer}
    (hi : s.calls[i]? = some (.handed d)) : Event cfg s (.answer i r answer) (s.answer cfg i r d answer) := by
  unfold Sys.answer
  split
  · next heq => exact .lost hi heq
  · next mark heq =>
    simp only [Sys.runMark]
    split
    · next hok => exact .answered hi heq hok
    · next herr => exact .unanswered hi heq herr

theorem executionRow_mem {executionId subjectId : Id} {e : ExecutionRow}
    (h : db.executionRow executionId subjectId = .ok e) : e ∈ db.executions :=
  (Table.find?_eq_some.mp (executionRow_eq_ok.mp h).1).1

theorem step_event (s : Sys) (a : Action) : Event cfg s a (step cfg s a) := by
  cases a with
  | store r op =>
    simp only [step, commit]
    split
    · next heq => exact .store heq
    · exact .idle
  | execute =>
    simp only [step]
    split
    · exact .called .preparing
    · exact .idle
  | retry orderId subjectId actor reason =>
    simp only [step]
    split
    · refine .called ?_
      split
      · next heq => exact .looking (List.mem_of_find?_eq_some heq)
      · exact .preparing
    · exact .idle
  | prepare i r =>
    simp only [step]
    split
    · next hi =>
      split
      · next heq => exact .prepared hi heq
      · exact .ended
    · exact .idle
  | dispatch i r =>
    simp only [step]
    split
    · next hi => exact dispatch_event hi
    · exact .idle
  | lapse i =>
    simp only [step]
    split
    · next hi => exact .withheld hi (show SignerAnswer.operationInvalidated ∈ withheldAnswers by simp [withheldAnswers])
    · exact .idle
  | answer i r answer =>
    simp only [step]
    split
    · next hi => exact answer_event hi
    · exact .idle
  | poll executionId subjectId actor =>
    simp only [step]
    split
    · next heq =>
      simp only [pollTerms, bind_eq_ok, Except.ok.injEq, Prod.mk.injEq] at heq
      obtain ⟨-, -, -, -, e, he, -, rfl⟩ := heq
      split
      · exact .called (.looking (executionRow_mem he))
      · exact .idle
    · exact .idle
  | lookup i clock reply =>
    simp only [step]
    split
    · next hi =>
      unfold Sys.lookup
      split
      · exact .ended
      · next heq => exact .looked hi heq
    · exact .idle
  | mark i r =>
    simp only [step]
    split
    · next hi =>
      simp only [Sys.runMark]
      split
      · next heq => exact .marked hi heq
      · next heq => exact .unmarked hi heq
    · exact .idle
  | crash => exact .crashed

/-- Where a call stands in the list, and what replacing it gives. -/
theorem split_set {α : Type} {l : List α} {i : Nat} {x : α} (h : l[i]? = some x) :
    ∃ before after, l = before ++ x :: after ∧ ∀ y, l.set i y = before ++ y :: after := by
  obtain ⟨hi, rfl⟩ := List.getElem?_eq_some_iff.mp h
  refine ⟨l.take i, l.drop (i + 1), ?_, fun y => ?_⟩
  · rw [List.getElem_cons_drop, List.take_append_drop]
  · rw [List.set_eq_take_append_cons_drop, if_pos hi]

end Noyra.Wallet.Proofs
