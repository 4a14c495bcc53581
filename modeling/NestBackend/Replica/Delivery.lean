import NestBackend.Replica
import NestBackend.Ws.Frames

namespace NestBackend

open NestBackend.Js
open NestBackend.Lib
open NestBackend.UserTopics
open NestBackend.Ws

namespace UserTopics.UserTopicService

def listenersOn (w : UserTopicService) (channel : String) : Nat :=
  w.listeners.countP (·.channel = channel)

end UserTopics.UserTopicService

namespace Replica

def framesFor (J : JsonText) (io : Sockets) (r : Registry) (channel message : String) :
    List SentFrame :=
  match userIdFromChannel channel, parseUserTopicEnvelope J message with
  | some userId, .ok payload excludeClientId =>
    (r.recipients io userId excludeClientId).map (·.frame (J.print payload))
  | _, _ => []

theorem callListener_eq (J : JsonText) (io : Sockets) (channel message : String) (s : Replica) :
    callListener J io channel message s = s.send (framesFor J io s.registry channel message) := by
  unfold callListener UserTopicService.handleTopicMessage framesFor
  cases userIdFromChannel channel with
  | none => simp
  | some u =>
    cases parseUserTopicEnvelope J message with
    | invalid reason => simp
    | ok payload exclude =>
      exact WsService.sendToLocalUser_text (JsonText.stringify_ofJson J payload) io u exclude s

theorem deliver_eq (J : JsonText) (io : Sockets) (channel message : String) (s : Replica) :
    deliver J io channel message s =
      s.send (List.replicate (s.world.topics.listenersOn channel)
        (framesFor J io s.registry channel message)).flatten := by
  rw [deliver, UserTopicService.listenersOn, List.countP_eq_length_filter]
  generalize s.world.topics.listeners.filter _ = ls
  induction ls generalizing s with
  | nil => simp
  | cons l ls ih =>
    rw [List.foldl_cons, ih, callListener_eq, List.length_cons, List.replicate_succ,
      List.flatten_cons, WsService.send_append]
    rfl

theorem nodup_framesFor (J : JsonText) (io : Sockets) {r : Registry} (hr : r.Valid)
    (channel message : String) : ((framesFor J io r channel message).map (·.ref)).Nodup := by
  unfold framesFor
  split
  · next u payload exclude _ _ =>
    rw [List.map_map]
    refine (Registry.nodup_recipients hr io u exclude).map_on fun x hx y hy href => ?_
    exact hr.eq_of_ref ((Registry.mem_recipients hr).mp hx).1
      ((Registry.mem_recipients hr).mp hy).1 href
  · exact List.nodup_nil

end Replica

end NestBackend
