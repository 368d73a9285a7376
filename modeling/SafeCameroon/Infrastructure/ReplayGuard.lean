import Mathlib.Data.Finset.Basic
import Mathlib.Data.Finset.Dedup
import Mathlib.Data.Finset.Lattice.Lemmas
import SafeCameroon.Delivery.Calls
import SafeCameroon.Library.Text

namespace SafeCameroon

open Table Text

def replayKey (channel : ChannelType) (providerEventId : String) : String :=
  channel.asDatabaseValue ++ ":" ++ providerEventId

theorem asDatabaseValue_unseparated (channel : ChannelType) :
    ':' ∉ channel.asDatabaseValue.toList := by
  cases channel <;> decide

theorem replayKey_injective (first second : ChannelType) (one two : String)
    (same : replayKey first one = replayKey second two) : first = second ∧ one = two := by
  have chars := congrArg String.toList same
  simp only [replayKey, String.toList_append] at chars
  have read := splitOnce_append ':' [] first.asDatabaseValue.toList one.toList
    (asDatabaseValue_unseparated first)
  have other := splitOnce_append ':' [] second.asDatabaseValue.toList two.toList
    (asDatabaseValue_unseparated second)
  change splitOnce [':'] (_ ++ ":".toList ++ _) = _ at read other
  rw [chars, other] at read
  obtain ⟨channels, ids⟩ := Prod.mk.inj (Option.some.inj read)
  have named := congrArg ChannelType.fromDatabaseValue (String.toList_injective channels)
  rw [ChannelType.from_as, ChannelType.from_as] at named
  exact ⟨(Option.some.inj named).symm, (String.toList_injective ids).symm⟩

/-- A provider's callback as a guard sees it; the database may fail meanwhile. -/
structure Callback where
  fault : Bool
  channel : ChannelType
  providerEventId : String

namespace Callback

def event (callback : Callback) : ChannelType × String :=
  (callback.channel, callback.providerEventId)

def refused (callback : Callback) : Bool :=
  callback.fault || callback.providerEventId.toList.all (· = ' ')

end Callback

/-- The reference guard, which lasts as long as its process. -/
structure InMemoryReplayGuard where
  seen : Finset String

namespace InMemoryReplayGuard

def recordIfNew (channel : ChannelType) (providerEventId : String) (guard : InMemoryReplayGuard) :
    Bool × InMemoryReplayGuard :=
  (decide (replayKey channel providerEventId ∉ guard.seen),
    { seen := insert (replayKey channel providerEventId) guard.seen })

def recordAll : List Callback → InMemoryReplayGuard → List Bool × InMemoryReplayGuard
  | [], guard => ([], guard)
  | callback :: later, guard =>
      let first := recordIfNew callback.channel callback.providerEventId guard
      let rest := recordAll later first.2
      (first.1 :: rest.1, rest.2)

/-- The reference guard that has seen what the table holds. -/
def mirror (db : Db) : InMemoryReplayGuard :=
  { seen := (db.webhookReplayEvents.map fun event => replayKey event.1 event.2).toFinset }

theorem mirror_seen (channel : ChannelType) (providerEventId : String) (db : Db) :
    replayKey channel providerEventId ∈ (mirror db).seen ↔
      (channel, providerEventId) ∈ db.webhookReplayEvents := by
  rw [mirror, List.mem_toFinset, List.mem_map]
  constructor
  · intro found
    obtain ⟨event, member, same⟩ := found
    obtain ⟨rfl, rfl⟩ := replayKey_injective _ _ _ _ same
    exact member
  · intro member
    exact ⟨_, member, rfl⟩

end InMemoryReplayGuard

namespace PostgresWebhookReplayGuard

def record (callback : Callback) (db : Db) : Except Failure Bool × Db :=
  transaction callback.fault .database (recordIfNew callback.channel callback.providerEventId) db

theorem runCall_recordIfNew (env : Env) (channel : ChannelType) (providerEventId : String)
    (db : Db) : runCall env (.recordIfNew channel providerEventId) db =
      record { fault := env.fault, channel, providerEventId } db := rfl

def recordAll : List Callback → Db → List (Except Failure Bool) × Db
  | [], db => ([], db)
  | callback :: later, db =>
      let first := record callback db
      let rest := recordAll later first.2
      (first.1 :: rest.1, rest.2)

def admitted (callbacks : List Callback) (answers : List (Except Failure Bool)) :
    List (ChannelType × String) :=
  ((callbacks.zip answers).filter fun entry => entry.2.toOption = some true).map fun entry =>
    entry.1.event

inductive Recorded (callback : Callback) (db : Db) : Except Failure Bool → Db → Prop where
  | refused (refused : callback.refused = true) : Recorded callback db (.error .database) db
  | again (unrefused : callback.refused = false)
      (member : callback.event ∈ db.webhookReplayEvents) : Recorded callback db (.ok false) db
  | new {after : Db} (unrefused : callback.refused = false)
      (unseen : callback.event ∉ db.webhookReplayEvents)
      (rows : after = { db with
        webhookReplayEvents := db.webhookReplayEvents ++ [callback.event] }) :
      Recorded callback db (.ok true) after

theorem record_recorded (callback : Callback) (db : Db) :
    Recorded callback db (record callback db).1 (record callback db).2 := by
  obtain ⟨fault, channel, providerEventId⟩ := callback
  cases fault with
  | true => exact .refused rfl
  | false =>
      by_cases blank : providerEventId.toList.all (· = ' ') = true
      · have ended : record ⟨false, channel, providerEventId⟩ db = (.error .database, db) := by
          simp only [record, transaction, recordIfNew, if_pos blank]
          rfl
        rw [ended]
        exact .refused (by simpa [Callback.refused] using blank)
      · have unrefused : Callback.refused ⟨false, channel, providerEventId⟩ = false := by
          simpa [Callback.refused] using blank
        by_cases member : (channel, providerEventId) ∈ db.webhookReplayEvents
        · have ended : record ⟨false, channel, providerEventId⟩ db = (.ok false, db) := by
            simp only [record, transaction, recordIfNew, if_neg blank, if_pos member]
            rfl
          rw [ended]
          exact .again unrefused member
        · have ended : record ⟨false, channel, providerEventId⟩ db = (.ok true, { db with
              webhookReplayEvents := db.webhookReplayEvents ++ [(channel, providerEventId)] }) := by
            simp only [record, transaction, recordIfNew, if_neg blank, if_neg member]
            rfl
          rw [ended]
          exact .new unrefused member rfl

namespace Recorded

variable {callback : Callback} {db after : Db} {answer : Except Failure Bool}

theorem isOk (recorded : Recorded callback db answer after) :
    answer.isOk = !callback.refused := by
  cases recorded with
  | refused refused => simp [refused, Except.isOk, Except.toBool]
  | again unrefused _ => simp [unrefused, Except.isOk, Except.toBool]
  | new unrefused _ _ => simp [unrefused, Except.isOk, Except.toBool]

theorem unchanged (recorded : Recorded callback db answer after) (refused : callback.refused = true) :
    answer = .error .database ∧ after = db := by
  cases recorded with
  | refused _ => exact ⟨rfl, rfl⟩
  | again unrefused _ => simp [refused] at unrefused
  | new unrefused _ _ => simp [refused] at unrefused

theorem mirrored (recorded : Recorded callback db answer after)
    (unrefused : callback.refused = false) :
    ∃ isNew, answer = .ok isNew ∧ InMemoryReplayGuard.recordIfNew callback.channel
      callback.providerEventId (.mirror db) = (isNew, .mirror after) := by
  cases recorded with
  | refused refused =>
      rw [unrefused] at refused
      cases refused
  | again _ member =>
      have seen := (InMemoryReplayGuard.mirror_seen _ _ _).mpr member
      refine ⟨false, rfl, ?_⟩
      simp only [InMemoryReplayGuard.recordIfNew, seen, Finset.insert_eq_of_mem seen]
      rfl
  | new _ unseen rows =>
      have fresh := (InMemoryReplayGuard.mirror_seen _ _ _).not.mpr unseen
      have grown : insert (replayKey callback.channel callback.providerEventId)
          (InMemoryReplayGuard.mirror db).seen = (InMemoryReplayGuard.mirror after).seen := by
        rw [rows, Finset.insert_eq, Finset.union_comm]
        simp only [InMemoryReplayGuard.mirror, List.map_append, List.toFinset_append]
        rfl
      refine ⟨true, rfl, ?_⟩
      rw [InMemoryReplayGuard.recordIfNew, grown]
      simp [fresh]

end Recorded

theorem recordAll_mirrored (callbacks : List Callback) (db : Db) :
    InMemoryReplayGuard.recordAll (callbacks.filter fun callback => !callback.refused)
        (.mirror db) =
      ((recordAll callbacks db).1.filterMap Except.toOption, .mirror (recordAll callbacks db).2) := by
  induction callbacks generalizing db with
  | nil => rfl
  | cons callback later ih =>
      have recorded := record_recorded callback db
      cases refused : callback.refused with
      | true =>
          obtain ⟨answer, same⟩ := recorded.unchanged refused
          rw [List.filter_cons_of_neg (by simp [refused]), ih db, recordAll, answer, same]
          rfl
      | false =>
          obtain ⟨isNew, answer, step⟩ := recorded.mirrored refused
          rw [List.filter_cons_of_pos (by simp [refused]), InMemoryReplayGuard.recordAll, step]
          dsimp only
          rw [ih, recordAll, answer]
          rfl

theorem recordAll_answered (callbacks : List Callback) (db : Db) :
    (recordAll callbacks db).1.map Except.isOk = callbacks.map fun callback => !callback.refused := by
  induction callbacks generalizing db with
  | nil => rfl
  | cons callback later ih =>
      rw [recordAll, List.map_cons, List.map_cons, (record_recorded callback db).isOk, ih]

theorem recordAll_admitted (callbacks : List Callback) (db : Db) :
    (recordAll callbacks db).2.webhookReplayEvents =
        db.webhookReplayEvents ++ admitted callbacks (recordAll callbacks db).1 ∧
      (admitted callbacks (recordAll callbacks db).1).Nodup ∧
      ∀ event ∈ admitted callbacks (recordAll callbacks db).1, event ∉ db.webhookReplayEvents := by
  induction callbacks generalizing db with
  | nil => simp [recordAll, admitted]
  | cons callback later ih =>
      have recorded := record_recorded callback db
      rw [recordAll]
      dsimp only
      generalize (record callback db).1 = answer at recorded ⊢
      generalize (record callback db).2 = after at recorded ⊢
      obtain ⟨table, single, unseen⟩ := ih after
      cases recorded with
      | refused _ => exact ⟨table, single, unseen⟩
      | again _ _ => exact ⟨table, single, unseen⟩
      | new _ fresh rows =>
          have held : after.webhookReplayEvents = db.webhookReplayEvents ++ [callback.event] := by
            rw [rows]
          have first : admitted (callback :: later) (.ok true :: (recordAll later after).1) =
            callback.event :: admitted later (recordAll later after).1 := rfl
          rw [held] at table unseen
          rw [first]
          refine ⟨by rw [table, List.append_assoc, List.singleton_append], ?_, ?_⟩
          · refine List.nodup_cons.mpr ⟨fun member => ?_, single⟩
            exact unseen _ member (List.mem_append_right _ List.mem_cons_self)
          · intro event member
            rcases List.mem_cons.mp member with rfl | behind
            · exact fresh
            · exact fun held => unseen event behind (List.mem_append_left _ held)

/-- However callbacks come and calls fail, the durable guard answers what the reference guard answers to
the callbacks that the database does not turn away, and it lets each event through once. -/
theorem replay_guards_agree (callbacks : List Callback) (db : Db) :
    InMemoryReplayGuard.recordAll (callbacks.filter fun callback => !callback.refused)
        (.mirror db) =
      ((recordAll callbacks db).1.filterMap Except.toOption, .mirror (recordAll callbacks db).2) ∧
    (recordAll callbacks db).1.map Except.isOk = (callbacks.map fun callback => !callback.refused) ∧
    (recordAll callbacks db).2.webhookReplayEvents =
      db.webhookReplayEvents ++ admitted callbacks (recordAll callbacks db).1 ∧
    (admitted callbacks (recordAll callbacks db).1).Nodup ∧
    ∀ event ∈ admitted callbacks (recordAll callbacks db).1, event ∉ db.webhookReplayEvents := by
  have agree := recordAll_mirrored callbacks db
  have answers := recordAll_answered callbacks db
  have grown := recordAll_admitted callbacks db
  exact ⟨agree, answers, grown⟩

end PostgresWebhookReplayGuard

end SafeCameroon
