import Mathlib.Data.List.Rotate
import ModelDepot.Proofs.LogReaders

/-!
How a reader shares its fetches among the partitions of its topic. It looks at them in turns, beginning behind the
partition of the record that it fetched last. Main statement: whatever others do meanwhile, a record that waits for a
reader comes after fewer records of other partitions than there are partitions, and until then no fetch comes back
with nothing (`fetched_in_turn`).
-/
namespace ModelDepot

/-! ### Turns -/

/-- How many of `count` partitions are looked at before `p`, beginning with `turn`. -/
def turnsUntil (count turn p : Nat) : Nat := (p + count - turn) % count

section
variable {count turn p q k : Nat}

theorem turnsUntil_lt (isTurn : turn < count) : turnsUntil count turn p < count :=
  Nat.mod_lt _ (Nat.zero_lt_of_lt isTurn)

theorem turnsUntil_add (isTurn : turn < count) (within : k < count) :
    turnsUntil count turn ((turn + k) % count) = k := by
  rcases Nat.lt_or_ge (turn + k) count with below | above
  · rw [Nat.mod_eq_of_lt below, turnsUntil, show turn + k + count - turn = k + count by omega, Nat.add_mod_right,
      Nat.mod_eq_of_lt within]
  · have small : turn + k - count < count := by omega
    have once : (turn + k) % count = turn + k - count := by rw [Nat.mod_eq_sub_mod above, Nat.mod_eq_of_lt small]
    rw [once, turnsUntil, show turn + k - count + count - turn = k by omega, Nat.mod_eq_of_lt within]

theorem add_turnsUntil (isTurn : turn < count) (isPartition : p < count) :
    (turn + turnsUntil count turn p) % count = p := by
  rw [turnsUntil, Nat.add_mod_mod, show turn + (p + count - turn) = p + count by omega, Nat.add_mod_right,
    Nat.mod_eq_of_lt isPartition]

theorem turnsUntil_inj (isTurn : turn < count) (isPartition : p < count) (isOther : q < count)
    (same : turnsUntil count turn q = turnsUntil count turn p) : q = p := by
  rw [← add_turnsUntil isTurn isOther, same, add_turnsUntil isTurn isPartition]

/-- Behind a partition that is looked at sooner, the turns begin nearer to `p`. -/
theorem turnsUntil_next (isTurn : turn < count) (isPartition : p < count) (isOther : q < count)
    (sooner : turnsUntil count turn q < turnsUntil count turn p) :
    turnsUntil count ((q + 1) % count) p < turnsUntil count turn p := by
  have within : turnsUntil count turn p < count := turnsUntil_lt isTurn
  obtain ⟨left, isLeft⟩ := Nat.exists_eq_add_of_lt sooner
  have there : ((q + 1) % count + left) % count = p := by
    calc ((q + 1) % count + left) % count
        = (q + (1 + left)) % count := by rw [Nat.mod_add_mod, Nat.add_assoc]
      _ = (turn + turnsUntil count turn q + (1 + left)) % count := by
        rw [← Nat.mod_add_mod (turn + turnsUntil count turn q), add_turnsUntil isTurn isOther]
      _ = p := by
        rw [show turn + turnsUntil count turn q + (1 + left) = turn + turnsUntil count turn p by omega,
          add_turnsUntil isTurn isPartition]
  have isNext : (q + 1) % count < count := Nat.mod_lt _ (Nat.zero_lt_of_lt isTurn)
  have nearer := turnsUntil_add isNext (show left < count by omega)
  rw [there] at nearer
  omega

end

namespace LogReader

/-- The record that waits for the reader in a partition, at its position there. -/
def awaited? (reader : LogReader) (log : Log) (p : Nat) : Option LogRecord :=
  reader.positions[p]?.bind fun position => (log.records reader.topic p)[position]?

/-- The reader has a position in each partition, and it is the turn of one of them. -/
structure Fits (reader : LogReader) (log : Log) : Prop where
  positions : reader.positions.length = log.partitions
  turn : reader.turn < log.partitions

variable {reader : LogReader} {log after : Log} {record : LogRecord} {p q : Nat}

theorem partition_of_awaited (waits : reader.awaited? log p = some record) : record.partition = p := by
  obtain ⟨position, -, stored⟩ := Option.bind_eq_some_iff.mp waits
  rw [Log.getElem?_records] at stored
  obtain ⟨entry, -, rfl⟩ := Option.map_eq_some_iff.mp stored
  rfl

/-- A waiting record goes on waiting while others are appended. -/
theorem awaited?_grow (grown : log.stored reader.topic p <+: after.stored reader.topic p)
    (waits : reader.awaited? log p = some record) : reader.awaited? after p = some record := by
  obtain ⟨position, at_p, stored⟩ := Option.bind_eq_some_iff.mp waits
  obtain ⟨more, same⟩ := Log.records_prefix grown
  refine Option.bind_eq_some_iff.mpr ⟨position, at_p, ?_⟩
  rw [← same, List.getElem?_append_left (List.getElem?_eq_some_iff.mp stored).1]
  exact stored

/-- So it does while records of other partitions are fetched. -/
theorem awaited?_pass (other : q ≠ p) (waits : reader.awaited? log p = some record) :
    (reader.pass q log.partitions).awaited? log p = some record := by
  simpa [awaited?, other] using waits

theorem Fits.lt_of_awaited (fits : reader.Fits log) (waits : reader.awaited? log p = some record) :
    p < log.partitions := by
  obtain ⟨position, at_p, -⟩ := Option.bind_eq_some_iff.mp waits
  exact fits.positions ▸ (List.getElem?_eq_some_iff.mp at_p).1

theorem Fits.pass (fits : reader.Fits log) (q : Nat) : (reader.pass q log.partitions).Fits log where
  positions := by rw [LogReader.pass, List.length_modify, fits.positions]
  turn := Nat.mod_lt _ (Nat.zero_lt_of_lt fits.turn)

/-- What a fetch finds where it looks. -/
def found (reader : LogReader) (item : (Array Log.Entry × Nat) × Nat) : Option (Nat × LogRecord) :=
  (reader.next? item.1.1 item.1.2 item.2).map (item.2, ·)

theorem getElem?_turns (sized : log.Sized) (fits : reader.Fits log) {k : Nat} (within : k < log.partitions) :
    (reader.turns (log.topic reader.topic))[k]? =
      ((log.topic reader.topic).zip reader.positions).zipIdx[(reader.turn + k) % log.partitions]? := by
  have all : ((log.topic reader.topic).zip reader.positions).zipIdx.length = log.partitions := by
    rw [List.length_zipIdx, List.length_zip, sized.topics, fits.positions, Nat.min_self]
  have inside : reader.turn ≤ ((log.topic reader.topic).zip reader.positions).zipIdx.length := all.symm ▸ fits.turn.le
  rw [turns, ← List.rotate_eq_drop_append_take inside, List.getElem?_rotate (by omega), all, Nat.add_comm]

/-- In each of its turns a fetch finds what waits in the partition. -/
theorem found_turns (sized : log.Sized) (fits : reader.Fits log) {k : Nat} (within : k < log.partitions) :
    (reader.turns (log.topic reader.topic))[k]?.bind reader.found =
      (reader.awaited? log ((reader.turn + k) % log.partitions)).map ((reader.turn + k) % log.partitions, ·) := by
  rw [getElem?_turns sized fits within]
  have isPartition : (reader.turn + k) % log.partitions < log.partitions := Nat.mod_lt _ sized.positive
  generalize (reader.turn + k) % log.partitions = p at isPartition
  obtain ⟨entries, at_topic⟩ : ∃ entries, (log.topic reader.topic)[p]? = some entries :=
    ⟨_, List.getElem?_eq_getElem (by rwa [sized.topics])⟩
  obtain ⟨position, at_positions⟩ : ∃ position, reader.positions[p]? = some position :=
    ⟨_, List.getElem?_eq_getElem (by rwa [fits.positions])⟩
  have paired : ((log.topic reader.topic).zip reader.positions)[p]? = some (entries, position) :=
    List.getElem?_zip_eq_some.mpr ⟨at_topic, at_positions⟩
  simp only [List.getElem?_zipIdx, paired, found, next?, awaited?, at_positions, Option.map_some, Option.bind_some,
    Nat.zero_add, Log.getElem?_records, Log.entryAt?, at_topic]

theorem fetch_of_found (isOpen : log.closed = false)
    (first : (reader.turns (log.topic reader.topic)).findSome? reader.found = some (p, record)) :
    reader.fetch log = .record record (reader.pass p (log.topic reader.topic).length) := by
  unfold fetch
  rw [isOpen, if_neg Bool.false_ne_true]
  change (match (reader.turns (log.topic reader.topic)).findSome? reader.found with
    | none => Fetched.pending
    | some (index, record) => .record record (reader.pass index (log.topic reader.topic).length)) = _
  rw [first]

/-- While a record waits in an open log, a fetch brings one, of a partition that is looked at no later. -/
theorem fetch_of_awaited (sized : log.Sized) (fits : reader.Fits log) (isOpen : log.closed = false)
    (waits : reader.awaited? log p = some record) :
    ∃ q other, reader.fetch log = .record other (reader.pass q log.partitions) ∧ reader.awaited? log q = some other ∧
      turnsUntil log.partitions reader.turn q ≤ turnsUntil log.partitions reader.turn p := by
  have within : turnsUntil log.partitions reader.turn p < log.partitions := turnsUntil_lt fits.turn
  have there := found_turns sized fits within
  rw [add_turnsUntil fits.turn (fits.lt_of_awaited waits), waits, Option.map_some] at there
  obtain ⟨item, at_there, isFound⟩ := Option.bind_eq_some_iff.mp there
  cases look : (reader.turns (log.topic reader.topic)).findSome? reader.found with
  | none =>
    rw [List.findSome?_eq_none_iff.mp look item (List.mem_of_getElem? at_there)] at isFound
    cases isFound
  | some first =>
    obtain ⟨q, other⟩ := first
    obtain ⟨earlier, next, later, split, nextFound, nothing⟩ := List.findSome?_eq_some_iff.mp look
    have at_next : (reader.turns (log.topic reader.topic))[earlier.length]? = some next := by
      rw [split, List.getElem?_append_right (Nat.le_refl _), Nat.sub_self]
      rfl
    have noLater : earlier.length ≤ turnsUntil log.partitions reader.turn p := by
      by_contra later
      rw [split, List.getElem?_append_left (by omega)] at at_there
      rw [nothing item (List.mem_of_getElem? at_there)] at isFound
      cases isFound
    have here := found_turns sized fits (Nat.lt_of_le_of_lt noLater within)
    rw [at_next, Option.bind_some, nextFound] at here
    obtain ⟨_, waitsHere, same⟩ := Option.map_eq_some_iff.mp here.symm
    obtain ⟨rfl, rfl⟩ := Prod.mk.inj same
    refine ⟨_, _, ?_, waitsHere, ?_⟩
    · rw [fetch_of_found isOpen look, sized.topics]
    · rwa [turnsUntil_add fits.turn (Nat.lt_of_le_of_lt noLater within)]

end LogReader

namespace Subscription
variable {sub : Subscription} {log : Log}

/-- What waits for a reader that stands is the next of its records that it has not fetched. -/
theorem Stands.awaited?_eq (stands : sub.Stands log) {p : Nat} (inside : p < sub.start.length) :
    sub.reader.awaited? log p = ((log.records sub.reader.topic p).drop (sub.startOf p))[(sub.taken p).length]? := by
  have begins := List.getElem?_eq_getElem inside
  rw [LogReader.awaited?, stands.positions, List.getElem?_drop, startOf, begins]
  rfl

/-- The reader after a fetch, which may have come back with nothing. -/
def fetch (sub : Subscription) (log : Log) : Subscription :=
  match sub.reader.fetch log with
  | .record record reader => sub.receive record reader
  | _ => sub

theorem fits_fetch (sized : log.Sized) (fits : sub.reader.Fits log) : (sub.fetch log).reader.Fits log := by
  unfold fetch
  split
  · rename_i fetched
    obtain ⟨p, _, _, _, _, _, rfl⟩ := LogReader.fetch_eq_record fetched
    rw [sized.topics]
    exact fits.pass p
  · exact fits

theorem fetched_fetch (sub : Subscription) (log : Log) : sub.fetched <+: (sub.fetch log).fetched := by
  unfold fetch
  split
  · exact List.prefix_append _ _
  · exact List.prefix_refl _

end Subscription

/-! ### What moves leave -/

theorem LogReader.Fits.grow {reader : LogReader} {log after : Log} (fits : reader.Fits log) (grows : log.Grows after) :
    reader.Fits after :=
  ⟨fits.positions.trans grows.partitions.symm, grows.partitions ▸ fits.turn⟩

namespace Readership
variable {s t : Readership} {move : Move} {moves : List Move} {number p : Nat} {sub : Subscription} {record : LogRecord}

/-- The move is a fetch of the reader with the number. -/
def Move.fetches (number : Nat) : Move → Bool
  | .fetch n => n == number
  | _ => false

/-- Every topic has all partitions, every group offsets for them, and every reader a position in each. So it is with a
    new log (`orderly_new`), and so it stays (`orderly_act`). -/
structure Orderly (s : Readership) : Prop where
  sized : s.log.Sized
  fits : ∀ sub ∈ s.subscriptions, sub.reader.Fits s.log

theorem orderly_new (n : Nat) : Orderly { log := Log.new n } where
  sized := Log.sized_new n
  fits sub member := by cases member

/-- The log has grown, and there may be more readers. -/
structure Joins (s t : Readership) : Prop where
  grows : s.log.Grows t.log
  readers : ∃ new, t.subscriptions = s.subscriptions ++ new ∧ (s.log.Sized → ∀ sub ∈ new, sub.reader.Fits t.log)

theorem joins_of_grows (grows : s.log.Grows t.log) (same : t.subscriptions = s.subscriptions) : Joins s t :=
  ⟨grows, [], same.trans (List.append_nil _).symm, fun _ _ member => nomatch member⟩

theorem joins_refl (s : Readership) : Joins s s := joins_of_grows (Log.Grows.refl _) rfl

/-- A move is a fetch of one of the readers, or leaves them all alone. -/
theorem act_cases (moved : act move s = some t) :
    (∃ number sub, move = .fetch number ∧ s.subscriptions[number]? = some sub ∧
      t = { s with subscriptions := s.subscriptions.set number (sub.fetch s.log) }) ∨
    (∀ number, move.fetches number = false) ∧ Joins s t := by
  cases move with
  | append topic key value =>
    refine .inr ⟨fun _ => rfl, ?_⟩
    simp only [act] at moved
    split at moved
    · rename_i appended
      obtain rfl := Option.some.inj moved
      exact joins_of_grows (Log.grows_append appended) rfl
    · exact Option.some.inj moved ▸ joins_refl s
  | subscribe group topic =>
    refine .inr ⟨fun _ => rfl, ?_⟩
    simp only [act] at moved
    split at moved
    · rename_i subscribed
      obtain rfl := Option.some.inj moved
      obtain ⟨rfl, -, -⟩ := Log.subscribe_eq_ok subscribed
      refine ⟨Log.grows_subscribe subscribed, _, rfl, fun sized sub member => ?_⟩
      rw [List.mem_singleton.mp member]
      have partitions := (Log.grows_subscribe subscribed).partitions
      exact ⟨(sized.offsets group topic).trans partitions.symm, partitions ▸ sized.positive⟩
    · exact Option.some.inj moved ▸ joins_refl s
  | fetch number =>
    obtain ⟨sub, there, moved⟩ := Option.map_eq_some_iff.mp moved
    refine .inl ⟨number, sub, rfl, there, ?_⟩
    have unchanged : s.subscriptions.set number sub = s.subscriptions := by
      obtain ⟨inside, rfl⟩ := List.getElem?_eq_some_iff.mp there
      exact List.set_getElem_self inside
    unfold Subscription.fetch
    generalize sub.reader.fetch s.log = fetched at moved
    cases fetched with
    | record record reader => exact moved.symm
    | pending => simp only [unchanged, ← moved]
    | closed => simp only [unchanged, ← moved]
  | commit number record =>
    refine .inr ⟨fun _ => rfl, ?_⟩
    obtain ⟨_, _, moved⟩ := Option.bind_eq_some_iff.mp moved
    split at moved
    · split at moved
      · rename_i committed
        obtain rfl := Option.some.inj moved
        exact joins_of_grows (Log.grows_commit committed) rfl
      · exact Option.some.inj moved ▸ joins_refl s
    · cases moved
  | close =>
    obtain rfl := Option.some.inj moved
    exact .inr ⟨fun _ => rfl, joins_of_grows (Log.grows_close _) rfl⟩

theorem act_grows (moved : act move s = some t) : s.log.Grows t.log := by
  rcases act_cases moved with ⟨_, _, rfl, _, rfl⟩ | ⟨-, joins⟩
  · exact Log.Grows.refl _
  · exact joins.grows

/-- A reader changes by its own fetches only. -/
theorem act_at (moved : act move s = some t) (there : s.subscriptions[number]? = some sub) :
    t.subscriptions[number]? = some (if move.fetches number then sub.fetch s.log else sub) := by
  have inside := (List.getElem?_eq_some_iff.mp there).1
  rcases act_cases moved with ⟨n, other, rfl, at_n, rfl⟩ | ⟨noFetch, -, new, readers, -⟩
  · by_cases mine : n = number
    · subst mine
      obtain rfl := Option.some.inj (there.symm.trans at_n)
      rw [List.getElem?_set_self inside, Move.fetches, if_pos (beq_self_eq_true n)]
    · rw [List.getElem?_set_ne mine, there, Move.fetches, if_neg (by simpa using mine)]
  · rw [readers, List.getElem?_append_left inside, there, noFetch number, if_neg Bool.false_ne_true]

theorem orderly_act (orderly : s.Orderly) (moved : act move s = some t) : t.Orderly := by
  rcases act_cases moved with ⟨n, other, rfl, at_n, rfl⟩ | ⟨-, grows, new, readers, fit⟩
  · refine ⟨orderly.sized, fun sub member => ?_⟩
    rcases List.mem_or_eq_of_mem_set member with earlier | rfl
    · exact orderly.fits sub earlier
    · exact Subscription.fits_fetch orderly.sized (orderly.fits other (List.mem_of_getElem? at_n))
  · refine ⟨grows.sized orderly.sized, fun sub member => ?_⟩
    rw [readers] at member
    rcases List.mem_append.mp member with earlier | isNew
    · exact (orderly.fits sub earlier).grow grows
    · exact fit orderly.sized sub isNew

/-! ### Runs -/

theorem play_grows (played : play act moves s = some t) : s.log.Grows t.log := by
  have kept : ∀ move u v, s.log.Grows u.log → act move u = some v → s.log.Grows v.log :=
    fun _ _ _ grows moved => grows.trans (act_grows moved)
  exact play_keeps kept (Log.Grows.refl s.log) played

theorem orderly_play (orderly : s.Orderly) (played : play act moves s = some t) : t.Orderly :=
  play_keeps (fun _ _ _ => orderly_act) orderly played

/-- A reader keeps what it has fetched. -/
theorem play_fetched (there : s.subscriptions[number]? = some sub) (played : play act moves s = some t) :
    ∃ after, t.subscriptions[number]? = some after ∧ sub.fetched <+: after.fetched := by
  have kept : ∀ move u v, (∃ now, u.subscriptions[number]? = some now ∧ sub.fetched <+: now.fetched) →
      act move u = some v → ∃ now, v.subscriptions[number]? = some now ∧ sub.fetched <+: now.fetched := by
    rintro move u v ⟨now, at_u, sofar⟩ moved
    refine ⟨_, act_at moved at_u, ?_⟩
    split
    · exact sofar.trans (now.fetched_fetch u.log)
    · exact sofar
  exact play_keeps kept ⟨sub, there, List.prefix_refl _⟩ played

/-- A record still waits for the reader: each of its fetches has brought a record of another partition. -/
structure Waits (t : Readership) (sub : Subscription) (p : Nat) (record : LogRecord) (since : List LogRecord)
    (fetches : Nat) : Prop where
  awaited : sub.reader.awaited? t.log p = some record
  each : since.length = fetches
  others : ∀ other ∈ since, other.partition ≠ p

/-- A record has come, as the first of its partition and behind at most so many of other ones. -/
def Came (p : Nat) (record : LogRecord) (since : List LogRecord) (bound : Nat) : Prop :=
  ∃ before later, since = before ++ record :: later ∧ (∀ other ∈ before, other.partition ≠ p) ∧ before.length ≤ bound

/-- Each record of another partition takes away one of the turns until the partition of the waiting one. -/
theorem fetched_before (orderly : s.Orderly) (there : s.subscriptions[number]? = some sub)
    (waits : sub.reader.awaited? s.log p = some record) (played : play act moves s = some t)
    (isOpen : t.log.closed = false) :
    ∃ after since, t.subscriptions[number]? = some after ∧ after.fetched = sub.fetched ++ since ∧
      (t.Waits after p record since (moves.countP (·.fetches number)) ∧
          since.length + turnsUntil t.log.partitions after.reader.turn p ≤
            turnsUntil t.log.partitions sub.reader.turn p ∨
        Came p record since (turnsUntil t.log.partitions sub.reader.turn p)) := by
  induction moves generalizing s sub with
  | nil =>
    obtain rfl := Option.some.inj played
    exact ⟨sub, [], there, (List.append_nil _).symm, .inl ⟨⟨waits, rfl, nofun⟩, (Nat.zero_add _).le⟩⟩
  | cons move more ih =>
    obtain ⟨u, moved, rest⟩ := Option.bind_eq_some_iff.mp played
    have at_u := act_at moved there
    have grows := act_grows moved
    have orderlyNext := orderly_act orderly moved
    cases own : move.fetches number with
    | false =>
      rw [own, if_neg Bool.false_ne_true] at at_u
      rw [List.countP_cons_of_neg (by simp [own])]
      exact ih orderlyNext at_u (LogReader.awaited?_grow (grows.stored _ _) waits) rest
    | true =>
      rw [own, if_pos rfl] at at_u
      rw [List.countP_cons_of_pos own]
      have partitions : t.log.partitions = s.log.partitions := (play_grows played).partitions
      have stillOpen : s.log.closed = false := by
        cases closed : s.log.closed with
        | false => rfl
        | true => rw [← isOpen, (play_grows played).closed closed]
      have fits := orderly.fits sub (List.mem_of_getElem? there)
      obtain ⟨q, other, fetched, waitsThere, noLater⟩ := LogReader.fetch_of_awaited orderly.sized fits stillOpen waits
      have received : sub.fetch s.log = sub.receive other (sub.reader.pass q s.log.partitions) := by
        rw [Subscription.fetch, fetched]
      rw [received] at at_u
      by_cases mine : q = p
      · subst mine
        obtain rfl := Option.some.inj (waits.symm.trans waitsThere)
        obtain ⟨after, at_t, later, more⟩ := play_fetched at_u rest
        refine ⟨after, record :: later, at_t, ?_, .inr ⟨[], later, rfl, nofun, Nat.zero_le _⟩⟩
        rw [← more, Subscription.receive, List.append_assoc]
        rfl
      · have isPartition := fits.lt_of_awaited waits
        have isOther := fits.lt_of_awaited waitsThere
        have sooner : turnsUntil s.log.partitions sub.reader.turn q < turnsUntil s.log.partitions sub.reader.turn p :=
          Nat.lt_of_le_of_ne noLater fun same => mine (turnsUntil_inj fits.turn isPartition isOther same)
        have nearer : turnsUntil t.log.partitions ((q + 1) % s.log.partitions) p <
            turnsUntil t.log.partitions sub.reader.turn p := by
          rw [partitions]
          exact turnsUntil_next fits.turn isPartition isOther sooner
        have ofOther : other.partition ≠ p := by
          rw [LogReader.partition_of_awaited waitsThere]
          exact fun same => mine (Int.natCast_inj.mp same)
        have waitsNext := LogReader.awaited?_grow (grows.stored _ _) (LogReader.awaited?_pass mine waits)
        obtain ⟨after, since, at_t, more, outcome⟩ := ih orderlyNext at_u waitsNext rest
        refine ⟨after, other :: since, at_t, by rw [more, Subscription.receive, List.append_assoc]; rfl, ?_⟩
        rcases outcome with ⟨still, few⟩ | ⟨before, later, split, others, few⟩
        · have stillOther : ∀ r ∈ other :: since, r.partition ≠ p := List.forall_mem_cons.mpr ⟨ofOther, still.others⟩
          refine .inl ⟨⟨still.awaited, congrArg (· + 1) still.each, stillOther⟩, ?_⟩
          rw [List.length_cons, Nat.add_right_comm]
          exact Nat.le_trans (Nat.succ_le_succ few) nearer
        · have allOther : ∀ r ∈ other :: before, r.partition ≠ p := List.forall_mem_cons.mpr ⟨ofOther, others⟩
          refine .inr ⟨other :: before, later, congrArg (other :: ·) split, allOther, ?_⟩
          exact Nat.le_trans (Nat.succ_le_succ few) nearer

/-- Whatever is done while a record waits for a reader in an open log, no fetch of the reader comes back with nothing,
    and before that record it brings at most one record less than there are partitions, all of other ones. -/
theorem fetched_in_turn (orderly : s.Orderly) (there : s.subscriptions[number]? = some sub)
    (waits : sub.reader.awaited? s.log p = some record) (played : play act moves s = some t)
    (isOpen : t.log.closed = false) :
    ∃ after since, t.subscriptions[number]? = some after ∧ after.fetched = sub.fetched ++ since ∧
      (t.Waits after p record since (moves.countP (·.fetches number)) ∧ since.length ≤ t.log.partitions - 1 ∧
          (∃ next reader, after.reader.fetch t.log = .record next reader) ∨
        Came p record since (t.log.partitions - 1)) := by
  have orderlyAfter := orderly_play orderly played
  have isTurn : sub.reader.turn < t.log.partitions :=
    (play_grows played).partitions ▸ (orderly.fits sub (List.mem_of_getElem? there)).turn
  have within : turnsUntil t.log.partitions sub.reader.turn p ≤ t.log.partitions - 1 :=
    Nat.le_pred_of_lt (turnsUntil_lt isTurn)
  obtain ⟨after, since, at_t, fetched, outcome⟩ := fetched_before orderly there waits played isOpen
  refine ⟨after, since, at_t, fetched, ?_⟩
  rcases outcome with ⟨still, few⟩ | ⟨before, later, split, others, few⟩
  · have fits := orderlyAfter.fits after (List.mem_of_getElem? at_t)
    obtain ⟨q, next, brings, -⟩ := LogReader.fetch_of_awaited orderlyAfter.sized fits isOpen still.awaited
    exact .inl ⟨still, by omega, next, _, brings⟩
  · exact .inr ⟨before, later, split, others, few.trans within⟩

/-- Records in each of three partitions, and a reader that begins with the first one. -/
def threefold : List Move :=
  [.append "t" [0] [10], .append "t" [1] [20], .append "t" [3] [30], .subscribe "g" "t"]

/-- While the reader fetches, one more record comes to the partition that it begins with. -/
def busy : List Move := [.fetch 0, .append "t" [0] [11], .fetch 0, .fetch 0, .fetch 0]

theorem fetched_in_turn_busy :
    ∃ s t sub, s.Orderly ∧ s.subscriptions[0]? = some sub ∧
      sub.reader.awaited? s.log 2 = some ⟨"t", 2, 0, [1], [20]⟩ ∧ play act busy s = some t ∧ t.log.closed = false ∧
      t.subscriptions.map (·.fetched.map (·.value)) = [[[10], [30], [20], [11]]] ∧
      ∃ after since, t.subscriptions[0]? = some after ∧ after.fetched = sub.fetched ++ since ∧
        (t.Waits after 2 ⟨"t", 2, 0, [1], [20]⟩ since (busy.countP (·.fetches 0)) ∧
            since.length ≤ t.log.partitions - 1 ∧ (∃ next reader, after.reader.fetch t.log = .record next reader) ∨
          Came 2 ⟨"t", 2, 0, [1], [20]⟩ since (t.log.partitions - 1)) := by
  have played : ((play act threefold { log := .new 3 }).bind fun s => (play act busy s).map fun t =>
      (s.subscriptions[0]?.bind (·.reader.awaited? s.log 2), t.log.closed,
        t.subscriptions.map (·.fetched.map (·.value)))) =
      some (some ⟨"t", 2, 0, [1], [20]⟩, false, [[[10], [30], [20], [11]]]) := by decide
  obtain ⟨s, reached, onward⟩ := Option.bind_eq_some_iff.mp played
  obtain ⟨t, ran, facts⟩ := Option.map_eq_some_iff.mp onward
  obtain ⟨waiting, facts⟩ := Prod.mk.inj facts
  obtain ⟨isOpen, values⟩ := Prod.mk.inj facts
  obtain ⟨sub, there, waits⟩ := Option.bind_eq_some_iff.mp waiting
  have orderly := orderly_play (orderly_new 3) reached
  exact ⟨s, t, sub, orderly, there, waits, ran, isOpen, values, fetched_in_turn orderly there waits ran isOpen⟩

end Readership
end ModelDepot
