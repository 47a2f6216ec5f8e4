import TestRunner.Client
import TestRunner.Rpc

/-! Input calls of several clients on their way to the server. The wait of a call ends with its
answer, after `RPC_TIMEOUT`, or with the loss of the connection. -/
namespace TestRunner.Client

open Server

variable {C : Type} [DecidableEq C]

/-- The handlers of the input interface as what the server makes of a call. -/
def handleInput (server : TestRunnerServer) (writes : List Write) (request : Request) :
    List Write × Unit :=
  (writes ++ server.handle request, ())

theorem state_replay (server : TestRunnerServer) (writes : List Write) (requests : List Request) :
    (Rpc.replay (handleInput server) writes requests).1 =
      writes ++ server.writes requests := by
  induction requests generalizing writes with
  | nil => simp [Rpc.replay, TestRunnerServer.writes]
  | cons request requests ih =>
    simp only [Rpc.replay, ih, handleInput, TestRunnerServer.writes, List.flatMap_cons,
      List.append_assoc]

theorem writes_sent (server : TestRunnerServer) (calls : List Call) :
    server.writes (calls.filterMap (·.send true)) = calls.flatMap (injected server true) := by
  induction calls with
  | nil => rfl
  | cons call calls ih =>
    rw [List.flatMap_cons, ← ih, injected]
    cases sent : call.send true with
    | none => simp [List.filterMap_cons_none sent]
    | some request => simp [List.filterMap_cons_some sent, TestRunnerServer.writes]

/-- However the calls of several clients, the time they wait and the loss of connections interleave:
what is written are the events of the handled requests, one request after the other. Over each
connection these are the first that were called, in order and none twice, all of them if all calls
have returned; and if that client is alone, its calls have injected their own events and no others. -/
theorem calls_injected (server : TestRunnerServer) (as : List (Rpc.Action C Request))
    (net : Rpc.Net C Request Unit (List Write))
    (reached : run (Rpc.step (handleInput server)) (Rpc.initial []) as = some net) :
    net.state = server.writes (net.handled.map (·.call.1)) ∧
    ∀ c, (net.handledOf c).map (·.call.1) <+: (net.links c).made ∧
      ((net.links c).returned.map Prod.snd).Nodup ∧
      ((net.links c).returned.length = (net.links c).made.length →
        (net.handledOf c).map (·.call.1) = (net.links c).made ∧
        ((∀ c' ≠ c, (net.links c').made = []) → ∀ calls : List Call,
          (net.links c).made = calls.filterMap (·.send true) →
            net.state = calls.flatMap (injected server true))) := by
  have orderly := Rpc.orderly_run reached
  have written : net.state = server.writes (net.handled.map (·.call.1)) := by
    have state := state_replay server [] (net.handled.map (·.call.1))
    rwa [orderly.served, List.nil_append] at state
  refine ⟨written, fun c => ⟨(orderly.links c).requests_first, (orderly.links c).returned_nodup,
    fun returned => ?_⟩⟩
  have all := (orderly.links c).all_handled returned
  refine ⟨all, fun quiet calls made => ?_⟩
  rw [written, ← orderly.alone quiet, all, made, writes_sent]

/-- The first client gives up its first call and makes another before the server has handled any;
the answer to the first comes late. -/
def lateAnswer : List (Rpc.Action Nat Request) :=
  [.call 0 (sendMouseMove 3 4), .giveUp 0, .call 0 (sendKeyPress 30 true),
    .call 1 (sendMouseMove 5 6), .serve 0, .serve 1, .deliver 0, .serve 0, .deliver 0, .deliver 1]

theorem calls_injected_late : ∃ net,
    run (Rpc.step (handleInput fourDevices)) (Rpc.initial []) lateAnswer = some net ∧
    net.state = fourDevices.writes (net.handled.map (·.call.1)) ∧
    (net.handledOf 1).map (·.call.1) = (net.links 1).made := by
  have reached : run (Rpc.step (handleInput fourDevices)) (Rpc.initial []) lateAnswer =
      some _ := Option.eq_some_of_isSome (by decide)
  obtain ⟨written, links⟩ := calls_injected fourDevices lateAnswer _ reached
  exact ⟨_, reached, written, ((links 1).2.2 (by decide)).1⟩

end TestRunner.Client
