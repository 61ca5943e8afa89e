/-
# A write that is not lost

A write of an entry has returned, and some client reads the entry. Whatever other clients do, except
write or remove the entry, the client finds what was written as long as that is valid, unless the file
has been removed meanwhile. That happens, for a client that has found an older document expired removes
the file by its name, without the lock that the writers hold, and the name may be that of the new
document by then.
-/

import DynamicContent.Proofs.Cache.Clients
import DynamicContent.Proofs.Cache.Groups

namespace DynamicContent.Cache.FileStore

open Clients

variable {ι : Type} [DecidableEq ι] {defaultLifetime : Nat}

/-- The system after some events, or as it is if they cannot happen. -/
def reached (defaultLifetime : Nat) (events : List (Event ι)) (s : Clients ι) : Clients ι :=
  (run? defaultLifetime events s).getD s

/-- What happens from the beginning on until some client, which has called a read of an entry after a
write of the entry has returned, is in the middle of that read or has its reply. The states between
are those that the events lead to. -/
structure Course (ι : Type) [DecidableEq ι] (defaultLifetime : Nat) where
  writer : ι
  reader : ι
  key : String
  value : Json
  lifetime : Nat
  directory : Directory
  start : Nat
  before : List (Event ι)
  during : List (Event ι)
  between : List (Event ι)
  reading : List (Event ι)
  calm : Clients ι := reached defaultLifetime before (idle directory start)
  begun : Clients ι := reached defaultLifetime [.called writer (.set key value lifetime)] calm
  stored : Clients ι := reached defaultLifetime during begun
  free : Clients ι := reached defaultLifetime between stored
  asked : Clients ι := reached defaultLifetime [.called reader (.get key)] free
  later : Clients ι := reached defaultLifetime reading asked
  run_before : run? defaultLifetime before (idle directory start) = some calm := by rfl
  called_write : calm.step? defaultLifetime (.called writer (.set key value lifetime)) = some begun :=
    by rfl
  run_during : run? defaultLifetime during begun = some stored := by rfl
  returned_write : stored.Returned writer (.set key value lifetime) (.stored (.ok ())) := by rfl
  run_between : run? defaultLifetime between stored = some free := by rfl
  called_read : free.step? defaultLifetime (.called reader (.get key)) = some asked := by rfl
  run_reading : run? defaultLifetime reading asked = some later := by rfl
  not_took : .took reader ∉ reading := by simp

namespace Course

variable (course : Course ι defaultLifetime)

/-- What happens from the call of the write on. -/
def since : List (Event ι) := course.during ++ course.between ++ course.reading

/-- No other client is in the middle of an operation that changes the entry when the write is called,
and none calls one later. -/
structure Undisturbed : Prop where
  calm : ∀ c op, course.calm.InProgress c op → ¬ op.Changes course.key
  since : ∀ c op, .called c op ∈ course.since → ¬ op.Changes course.key

/-- The clock shows no later time from the call of the write on. -/
structure EndsBy (latest : Nat) : Prop where
  calm : course.calm.shared.now ≤ latest
  since : ∀ now, .ticked now ∈ course.since → now ≤ latest

/-- At some moment the write is about to put its document in place. -/
def Placing (moment : Clients ι) (entry : StoredEntry) : Prop :=
  GoesOnFrom defaultLifetime course.during course.begun course.writer moment ∧
    ∃ next, moment.tasks course.writer =
      some ⟨.set course.key course.value course.lifetime, .place entry next⟩

/-- The document of the write is valid beyond some time. -/
def ValidBeyond (latest : Nat) : Prop :=
  ∀ moment entry, course.Placing moment entry → (latest : Int) < entry.expiresAt

/-- The write has just put its document in place, and what happens until it returns is still to come. -/
def Placed (back : List (Event ι)) (placed : Clients ι) : Prop :=
  ∃ front moment entry next, course.during = front ++ .went course.writer :: back ∧
    run? defaultLifetime front course.begun = some moment ∧
    moment.tasks course.writer =
      some ⟨.set course.key course.value course.lifetime, .place entry next⟩ ∧
    moment.step? defaultLifetime (.went course.writer) = some placed

/-- What happens until the reader goes on for the first time, which is when it reads the file. -/
def waiting : List (Event ι) := course.reading.takeWhile fun event => !event.isStepOf course.reader

/-- What happens from some moment of the write on until the reader reads the file. -/
def untilRead (back : List (Event ι)) : List (Event ι) :=
  back ++ (course.between ++ .called course.reader (.get course.key) :: course.waiting)

/-- A client that had read an older file of the entry when the document was put in place goes on to
remove the file, and that before the reader reads it. -/
def Dropped : Prop :=
  ∃ back placed c moment, course.Placed back placed ∧ placed.HasRead course.key c ∧
    GoesOnFrom defaultLifetime (course.untilRead back) placed c moment ∧ moment.Drops course.key c

variable {course} {latest : Nat}

/-! ### The document of the write -/

/-- The clock shows some time or later, and what is left of a write that was called by then is before
its document, or has its reply. -/
def WritesSince (course : Course ι defaultLifetime) (first : Nat) (s : Clients ι) : Prop :=
  first ≤ s.shared.now ∧ ∀ op rest, s.tasks course.writer = some ⟨op, rest⟩ → op.Changes course.key →
    Writing defaultLifetime course.key course.value course.lifetime first rest ∨
      ∃ reply, rest = .leave reply ∨ rest = .done reply

theorem WritesSince.step {first : Nat} {s s' : Clients ι} {event : Event ι}
    (h : course.WritesSince first s) (hstep : s.step? defaultLifetime event = some s')
    (hticked : ∀ now, event = .ticked now → first ≤ now)
    (hcalls : ∀ op, event = .called course.writer op → ¬ op.Changes course.key) :
    course.WritesSince first s' := by
  refine ⟨le_now_of_step? hstep h.1 hticked, fun op rest htask hop => ?_⟩
  rcases tasks_cases hstep htask with hsame | ⟨-, before, shared, hbefore, hnext⟩ | ⟨hcall, -⟩
  · exact h.2 op rest hsame hop
  · rcases h.2 op before hbefore hop with hwriting | ⟨reply, rfl | rfl⟩
    · rcases hwriting.step h.1 hnext with hmore | ⟨now, -, rfl | ⟨error, rfl⟩⟩
      · exact .inl hmore
      · exact .inr ⟨_, .inl rfl⟩
      · exact .inr ⟨_, .inl rfl⟩
    · obtain ⟨rfl, -⟩ := Prod.mk.inj (Option.some.inj hnext)
      exact .inr ⟨reply, .inr rfl⟩
    · contradiction
  · exact absurd hop (hcalls op hcall)

/-- What the write is about to put in place is a document that it has made of its value, at some time
that the clock has shown. -/
theorem exists_document {first : Nat} {front : List (Event ι)} {moment : Clients ι}
    {entry : StoredEntry} {next : Except StepError Unit → Script}
    (hmoment : run? defaultLifetime front course.begun = some moment)
    (hcalm : first ≤ course.calm.shared.now) (hticked : ∀ now, .ticked now ∈ front → first ≤ now)
    (hcalls : ∀ op, .called course.writer op ∈ front → ¬ op.Changes course.key)
    (htask : moment.tasks course.writer =
      some ⟨.set course.key course.value course.lifetime, .place entry next⟩) :
    ∃ now : Nat, first ≤ now ∧
      entry = document defaultLifetime course.key course.value course.lifetime now ∧
      .place entry next = Script.write entry := by
  have hbegun : course.WritesSince first course.begun := by
    refine ⟨le_now_of_step? course.called_write hcalm (by simp),
      fun op rest htask _ => ?_⟩
    rw [(task_of_called course.called_write).2] at htask
    obtain ⟨-, rfl⟩ := Task.mk.inj (Option.some.inj htask)
    exact .inl .called
  have hwriter : course.WritesSince first moment :=
    run?_induction (P := course.WritesSince first) (fun event hevent s s' hs hstep => hs.step hstep
      (fun now hnow => hticked now (hnow ▸ hevent)) fun op hcall => hcalls op (hcall ▸ hevent))
      hmoment hbegun
  rcases hwriter.2 _ _ htask rfl with hwriting | ⟨reply, heq | heq⟩
  · generalize hrest : Script.place entry next = rest at hwriting
    cases hwriting with
    | called => contradiction
    | waiting h => contradiction
    | @ready now h =>
        obtain ⟨rfl, rfl⟩ := Script.place.inj hrest
        exact ⟨now, h, rfl, rfl⟩
  · contradiction
  · contradiction

/-- A document is valid for the lifetime of the write, from the first time that the clock shows during
the write. -/
theorem validBeyond {first : Nat} (hcalm : first ≤ course.calm.shared.now)
    (hticked : ∀ now, .ticked now ∈ course.during → first ≤ now)
    (hcalls : ∀ op, .called course.writer op ∈ course.during → ¬ op.Changes course.key)
    (hlatest : (latest : Int) < expiry first
      (if course.lifetime = 0 then defaultLifetime else course.lifetime)) :
    course.ValidBeyond latest := by
  rintro moment entry ⟨⟨front, back, hsplit, hmoment⟩, next, htask⟩
  have hfront {event : Event ι} (hevent : event ∈ front) : event ∈ course.during := by
    simp [hsplit, hevent]
  obtain ⟨now, hnow, rfl, -⟩ := exists_document hmoment hcalm
    (fun now hnow => hticked now (hfront hnow)) (fun op hop => hcalls op (hfront hop)) htask
  exact Int.lt_of_lt_of_le hlatest (expiry_mono (Int.ofNat_le.mpr hnow) _)

/-! ### The document in its place -/

theorem mem_since_of_mem_during {event : Event ι} (h : event ∈ course.during) :
    event ∈ course.since := by
  simp [since, h]

/-- A write that has returned has put its document in place at some moment. -/
theorem exists_placed (hundisturbed : course.Undisturbed) :
    ∃ back placed, course.Placed back placed := by
  obtain ⟨front, back, moment, placed, now, hsplit, hmoment, htask, hplaced, -⟩ :=
    places_of_returned course.run_during
      (fun op hop => hundisturbed.since course.writer op (mem_since_of_mem_during hop))
      (task_of_called course.called_write).2 .called course.returned_write
  exact ⟨back, placed, front, moment, _, _, hsplit, hmoment, htask, hplaced⟩

/-- After its document is in place, a write goes on to its return. -/
theorem Placed.run_stored {back : List (Event ι)} {placed : Clients ι}
    (h : course.Placed back placed) : run? defaultLifetime back placed = some course.stored := by
  obtain ⟨front, moment, entry, next, hsplit, hmoment, -, hplaced⟩ := h
  have hrun := course.run_during
  rw [hsplit, run?_append, hmoment, Option.bind_some, run?, hplaced] at hrun
  exact hrun

theorem Placed.mem_during {back : List (Event ι)} {placed : Clients ι}
    (h : course.Placed back placed) {event : Event ι} (hevent : event ∈ back) :
    event ∈ course.during := by
  obtain ⟨front, moment, entry, next, hsplit, -⟩ := h
  simp [hsplit, hevent]

theorem apart_begun : course.begun.Apart course.key := by
  have hidle : (idle course.directory course.start : Clients ι).Apart course.key :=
    fun c op rest htask => by contradiction
  have hbegun : run? defaultLifetime [.called course.writer (.set course.key course.value
      course.lifetime)] course.calm = some course.begun :=
    run?_cons_eq_some_iff.mpr ⟨course.begun, course.called_write, rfl⟩
  exact (hidle.run course.run_before).run hbegun

/-- When the write has been called, it is the only operation that changes the entry. -/
theorem onlyChanger_begun (hundisturbed : course.Undisturbed) :
    course.begun.OnlyChanger course.key course.writer := by
  rintro c op ⟨rest, htask, hrest⟩ hc
  rcases tasks_cases course.called_write htask with hsame | ⟨hevent, -⟩ | ⟨hevent, -⟩
  · exact hundisturbed.calm c op ⟨rest, hsame, hrest⟩
  · contradiction
  · exact absurd (Event.called.inj hevent).1.symm hc

/-- When the document of a write has been put in its place, it is what the file holds, and nobody but a
client that has read the file before will change that. -/
theorem Placed.exists_settled {back : List (Event ι)} {placed : Clients ι}
    (h : course.Placed back placed) (hvalue : course.value.IsExact)
    (hdeep : course.value.depth + 1 < Json.depthLimit) (hundisturbed : course.Undisturbed)
    (hends : course.EndsBy latest) (hvalid : course.ValidBeyond latest) :
    ∃ entry, entry.value = course.value ∧
      placed.shared.directory.read (fileName course.key) = .ok entry.toJson.print ∧
      placed.Settled course.key entry latest (placed.HasRead course.key) := by
  have hback {event : Event ι} (hevent : event ∈ back) : event ∈ course.since :=
    mem_since_of_mem_during (h.mem_during hevent)
  have hrunback := h.run_stored
  obtain ⟨front, moment, entry, next, hsplit, hmoment, htask, hplaced⟩ := h
  have hlong : (latest : Int) < entry.expiresAt :=
    hvalid moment entry ⟨⟨front, back, hsplit, hmoment⟩, next, htask⟩
  have hfront {event : Event ι} (hevent : event ∈ front) : event ∈ course.since :=
    mem_since_of_mem_during (by simp [hsplit, hevent])
  obtain ⟨now, -, rfl, hwrite⟩ := exists_document hmoment (Nat.zero_le _) (fun _ _ => Nat.zero_le _)
    (fun op hop => hundisturbed.since course.writer op (hfront hop)) htask
  rw [hwrite] at htask
  -- The step cannot have failed, for the write has returned that it has stored its value.
  have hread : placed.shared.directory.read (fileName course.key) =
      .ok (document defaultLifetime course.key course.value course.lifetime now).toJson.print := by
    obtain ⟨op, rest, more, shared, htask', hnext, rfl⟩ := step?_went_iff.mp hplaced
    obtain ⟨rfl, rfl⟩ : _ = op ∧ _ = rest := by simpa [htask] using htask'
    rcases step?_write hnext with ⟨-, hread⟩ | ⟨error, rfl⟩
    · exact hread
    · refine absurd course.returned_write (not_returned_of_failed hrunback
        (fun op hop => hundisturbed.since course.writer op (hback hop)) ?_)
      intro op rest hop _
      obtain ⟨rfl, rfl⟩ : _ = op ∧ _ = rest := by simpa using hop
      exact ⟨error, .inl rfl⟩
  have hnow : moment.shared.now ≤ latest := by
    have hcalled : course.begun.shared.now ≤ latest :=
      now_le_of_step? course.called_write hends.calm (by simp)
    exact now_le_of_run? hcalled (fun time htime => hends.since time (hfront htime)) hmoment
  exact ⟨_, rfl, hread, settled_of_placed (apart_begun.run hmoment)
    ((onlyChanger_begun hundisturbed).run (fun c op hop => hundisturbed.since c op (hfront hop)) hmoment)
    htask hplaced hread
    (now_le_of_step? hplaced hnow (by simp)) (ofJson?_parse?_document hvalue hdeep hlong)
    hlong⟩

/-! ### What the reader finds -/

/-- What happens in the read is what happens before the reader reads the file, and then, if that is in
the course, the step that reads it, and more. -/
theorem exists_reading (course : Course ι defaultLifetime) :
    ∃ more, course.reading = course.waiting ++ more ∧
      (more = [] ∨ ∃ rest, more = .went course.reader :: rest) := by
  refine ⟨course.reading.dropWhile fun event => !event.isStepOf course.reader,
    List.takeWhile_append_dropWhile.symm, ?_⟩
  cases hmore : course.reading.dropWhile fun event => !event.isStepOf course.reader with
  | nil => exact .inl rfl
  | cons event rest =>
      have hhead := List.head?_dropWhile_not (fun event => !event.isStepOf course.reader) course.reading
      rw [hmore] at hhead
      have hstep : event.isStepOf course.reader = true := by simpa using hhead
      exact .inr ⟨rest, Event.eq_went_of_isStepOf hstep ▸ rfl⟩

theorem mem_reading_of_mem_waiting {event : Event ι} (h : event ∈ course.waiting) :
    event ∈ course.reading := by
  obtain ⟨more, hsplit, -⟩ := course.exists_reading
  simp [hsplit, h]

/-- Until the reader reads the file, it has the whole of its read before it. -/
theorem task_of_run_waiting {ready : Clients ι}
    (hready : run? defaultLifetime course.waiting course.asked = some ready) :
    ready.tasks course.reader = some ⟨.get course.key, .get course.key⟩ := by
  refine run?_induction
    (P := fun s => s.tasks course.reader = some ⟨.get course.key, .get course.key⟩)
    (fun event hevent s s' htask hstep => ?_) hready (task_of_called course.called_read).2
  rcases task_of_step? hstep htask fun _ _ h => nomatch h with hsame | ⟨rfl, -⟩
  · exact hsame
  · have hwaiting := List.mem_takeWhile_imp hevent
    simp [Event.isStepOf] at hwaiting

theorem Placed.run_untilRead {back : List (Event ι)} {placed ready : Clients ι}
    (h : course.Placed back placed)
    (hready : run? defaultLifetime course.waiting course.asked = some ready) :
    run? defaultLifetime (course.untilRead back) placed = some ready := by
  rw [untilRead, run?_append, h.run_stored, Option.bind_some, run?_append, course.run_between,
    Option.bind_some, run?, course.called_read, Option.bind_some, hready]

theorem Placed.mem_untilRead {back : List (Event ι)} {placed : Clients ι}
    (h : course.Placed back placed) {event : Event ι} (hevent : event ∈ course.untilRead back) :
    event ∈ course.since ∨ event = .called course.reader (.get course.key) := by
  simp only [untilRead, List.mem_append, List.mem_cons] at hevent
  rcases hevent with hevent | hevent | rfl | hevent
  · exact .inl (mem_since_of_mem_during (h.mem_during hevent))
  · exact .inl (by simp [since, hevent])
  · exact .inr rfl
  · exact .inl (by simp [since, mem_reading_of_mem_waiting hevent])

/-- When the reader is about to read the file, there is none exactly if a client that had read an older
one has removed it. -/
theorem gone_iff_dropped (hvalue : course.value.IsExact)
    (hdeep : course.value.depth + 1 < Json.depthLimit) (hundisturbed : course.Undisturbed)
    (hends : course.EndsBy latest) (hvalid : course.ValidBeyond latest) {ready : Clients ι}
    (hready : run? defaultLifetime course.waiting course.asked = some ready) :
    ∃ entry stale, entry.value = course.value ∧ ready.Settled course.key entry latest stale ∧
      (ready.shared.directory.read (fileName course.key) = .error .notFound ↔ course.Dropped) := by
  have hticked {back : List (Event ι)} {placed : Clients ι} (hplaced : course.Placed back placed)
      (now : Nat) (hnow : .ticked now ∈ course.untilRead back) : now ≤ latest := by
    rcases hplaced.mem_untilRead hnow with hsince | hcall
    · exact hends.since now hsince
    · contradiction
  have hcalled {back : List (Event ι)} {placed : Clients ι} (hplaced : course.Placed back placed)
      (c : ι) (op : Operation) (hop : .called c op ∈ course.untilRead back) :
      ¬ op.Changes course.key := by
    rcases hplaced.mem_untilRead hop with hsince | hcall
    · exact hundisturbed.since c op hsince
    · rw [(Event.called.inj hcall).2]
      exact id
  have hgone {back : List (Event ι)} {placed : Clients ι} (hplaced : course.Placed back placed) :
      ready.shared.directory.read (fileName course.key) = .error .notFound ↔
        ∃ c moment, placed.HasRead course.key c ∧
          GoesOnFrom defaultLifetime (course.untilRead back) placed c moment ∧
          moment.Drops course.key c := by
    obtain ⟨entry, -, hread, hsettled⟩ :=
      hplaced.exists_settled hvalue hdeep hundisturbed hends hvalid
    rw [hsettled.gone_iff (hplaced.run_untilRead hready) (hticked hplaced) (hcalled hplaced), hread]
    simp
  obtain ⟨back, placed, hplaced⟩ := exists_placed hundisturbed
  obtain ⟨entry, heq, -, hsettled⟩ := hplaced.exists_settled hvalue hdeep hundisturbed hends hvalid
  refine ⟨entry, _, heq, hsettled.run (hplaced.run_untilRead hready) (hticked hplaced)
    (hcalled hplaced), ?_, ?_⟩
  · intro hread
    obtain ⟨c, moment, hdropped⟩ := (hgone hplaced).mp hread
    exact ⟨back, placed, c, moment, hplaced, hdropped⟩
  · rintro ⟨back', placed', c, moment, hplaced', hdropped⟩
    exact (hgone hplaced').mpr ⟨c, moment, hdropped⟩

/-- What was written is what is read until it is no longer valid, by every client that calls a read
after the write has returned, and in at most two steps of its own. Other clients may do anything but
write or remove the entry. There is one exception: if a client that had read an older file removes the
new one by its name before it is read, nothing is found. -/
theorem exists_returned (hvalue : course.value.IsExact)
    (hdeep : course.value.depth + 1 < Json.depthLimit) (hundisturbed : course.Undisturbed)
    (hends : course.EndsBy latest) (hvalid : course.ValidBeyond latest) :
    ∃ n ≤ 2, ∃ final found,
      run? defaultLifetime (List.replicate n (.went course.reader)) course.later = some final ∧
        final.Returned course.reader (.get course.key) (.value (.ok found)) ∧
        (¬ course.Dropped ∧ found = some course.value ∨ course.Dropped ∧ found = none) := by
  obtain ⟨more, hsplit, hmore⟩ := course.exists_reading
  have hreading := course.run_reading
  rw [hsplit, run?_append] at hreading
  obtain ⟨ready, hready, hlater⟩ := Option.bind_eq_some_iff.mp hreading
  obtain ⟨entry, stale, heq, hsettled, hgone⟩ :=
    gone_iff_dropped hvalue hdeep hundisturbed hends hvalid hready
  obtain ⟨next, found, hstep, hshared, hfound, hcases⟩ :=
    hsettled.exists_hasFound (task_of_run_waiting hready)
  have hresult : ¬ course.Dropped ∧ found = some course.value ∨ course.Dropped ∧ found = none := by
    rw [← heq, ← hgone]
    exact hcases
  have hvalidAt {s : Clients ι} (hnow : s.shared.now ≤ latest) : (s.shared.now : Int) < entry.expiresAt :=
    Int.lt_of_le_of_lt (Int.ofNat_le.mpr hnow) hsettled.valid
  have hnext : next.shared.now ≤ latest := hshared ▸ hsettled.now
  rcases hmore with rfl | ⟨rest, rfl⟩
  -- The reader has not read the file yet.
  · obtain rfl := Option.some.inj hlater
    obtain ⟨n, hn, final, hfinal, hreturned⟩ := hfound.returns_soon (hvalidAt hnext)
    exact ⟨n + 1, Nat.succ_le_succ hn, final, found,
      run?_cons_eq_some_iff.mpr ⟨next, hstep, hfinal⟩, hreturned, hresult⟩
  -- What the reader has found, nothing that happens later changes.
  · obtain ⟨after, hafter, hrest⟩ := run?_cons_eq_some_iff.mp hlater
    obtain rfl := Option.some.inj (hstep.symm.trans hafter)
    have hrestEvents {event : Event ι} (hevent : event ∈ rest) : event ∈ course.reading := by
      simp [hsplit, hevent]
    obtain ⟨hlate, hkept⟩ : course.later.shared.now ≤ latest ∧
        course.later.HasFound course.key entry found course.reader :=
      run?_induction (P := fun s => s.shared.now ≤ latest ∧
          s.HasFound course.key entry found course.reader)
        (fun event hevent s s' hs hstep =>
          ⟨now_le_of_step? hstep hs.1 fun now hnow =>
              hends.since now (by simp [since, hrestEvents (hnow ▸ hevent)]),
            hs.2.step hstep (hvalidAt hs.1) fun htook =>
              course.not_took (hrestEvents (htook ▸ hevent))⟩)
        hrest ⟨hnext, hfound⟩
    obtain ⟨n, hn, final, hfinal, hreturned⟩ := hkept.returns_soon (hvalidAt hlate)
    exact ⟨n, hn.trans (Nat.le_succ 1), final, found, hfinal, hreturned, hresult⟩

/-- Where no client reads the entry before its document is put in place, except such as do not go on
before the reader has read it, none removes it. -/
theorem not_dropped
    (hcalm : ∀ c rest, .went c ∈ course.during ++ course.between ++ course.waiting →
      course.calm.tasks c ≠ some ⟨.get course.key, rest⟩)
    (hcalls : ∀ c, .called c (.get course.key) ∉ course.during) : ¬ course.Dropped := by
  rintro ⟨back, placed, c, moment, hplaced, ⟨rest, htask, -⟩, ⟨upto, later, hgoes, -⟩, -⟩
  obtain ⟨front, writing, entry, next, hsplit, hwriting, -, hstep⟩ := hplaced
  have hevent : .went c ∈ course.during ++ course.between ++ course.waiting := by
    have hmem : .went c ∈ course.untilRead back := by simp [hgoes]
    simp only [untilRead, List.mem_append, List.mem_cons, reduceCtorEq, false_or] at hmem
    rcases hmem with hmem | hmem | hmem
    · simp [hsplit, hmem]
    · simp [hmem]
    · simp [hmem]
  have hrun : run? defaultLifetime
      (.called course.writer (.set course.key course.value course.lifetime) ::
        (front ++ [.went course.writer])) course.calm = some placed := by
    rw [run?, course.called_write, Option.bind_some, run?_append, hwriting, Option.bind_some]
    exact run?_cons_eq_some_iff.mpr ⟨placed, hstep, rfl⟩
  refine run?_induction (P := fun s => ∀ rest, s.tasks c ≠ some ⟨.get course.key, rest⟩)
    (fun event hmem s s' hs hstep rest htask => ?_) hrun (fun rest => hcalm c rest hevent) rest htask
  rcases tasks_cases hstep htask with hsame | ⟨-, before, -, hbefore, -⟩ | ⟨rfl, -⟩
  · exact hs rest hsame
  · exact hs before hbefore
  · exact hcalls c (by simpa [hsplit] using Or.inl hmem)

/-- What a client of the following course is there for. -/
inductive Role where
  | writer
  | reader
  | late
deriving DecidableEq

/-- One client writes a value, and another removes another entry meanwhile and then reads what was
written. A third has read an older file, which has expired when it goes on and removes the new one. By
then the new one has been read. -/
def busy : Course Role 86400 where
  writer := .writer
  reader := .reader
  key := "a"
  value := .int 2
  lifetime := 60
  directory := []
  start := 0
  before := [.called .writer (.set "a" (.int 1) 5), .went .writer, .went .writer, .went .writer,
    .went .writer, .took .writer, .called .late (.get "a"), .went .late]
  during := [.went .writer, .went .writer, .called .reader (.erase "b"), .went .writer, .went .writer]
  between := [.went .reader, .ticked 10, .went .reader, .took .writer, .went .reader, .took .reader]
  reading := [.ticked 20, .went .reader, .went .late, .went .late]

theorem busy_undisturbed : busy.Undisturbed := by
  refine ⟨fun c op h => ?_, fun c op hop => ?_⟩
  · obtain ⟨rest, htask, -⟩ := h
    cases c with
    | writer | reader => contradiction
    | late =>
        obtain ⟨rfl, -⟩ := Task.mk.inj (Option.some.inj htask)
        exact id
  · obtain ⟨-, rfl⟩ : c = .reader ∧ op = .erase "b" := by simpa [busy, since] using hop
    decide

theorem busy_endsBy : busy.EndsBy 30 :=
  ⟨by decide, by simp [busy, since]⟩

theorem busy_validBeyond : busy.ValidBeyond 30 :=
  @validBeyond _ _ _ busy _ 0 (by decide) (by simp [busy]) (by simp [busy]) (by decide)

theorem busy_not_dropped : ¬ busy.Dropped := by
  refine not_dropped (fun c rest hgoes htask => ?_) (by simp [busy])
  cases c with
  | writer | reader => contradiction
  | late => simp [busy, waiting, Event.isStepOf] at hgoes

/-- In that course the value is found. -/
theorem exists_returned_busy :
    busy.value.IsExact ∧ busy.value.depth + 1 < Json.depthLimit ∧ busy.Undisturbed ∧
      busy.EndsBy 30 ∧ busy.ValidBeyond 30 ∧
      ∃ n ≤ 2, ∃ final, run? 86400 (List.replicate n (.went .reader)) busy.later = some final ∧
        final.Returned .reader (.get "a") (.value (.ok (some (.int 2)))) := by
  have hvalue : busy.value.IsExact := ⟨by decide, by decide⟩
  have hdeep : busy.value.depth + 1 < Json.depthLimit := by decide
  obtain ⟨n, hn, final, found, hrun, hreturned, ⟨-, rfl⟩ | ⟨hdropped, -⟩⟩ :=
    exists_returned hvalue hdeep busy_undisturbed busy_endsBy busy_validBeyond
  · exact ⟨hvalue, hdeep, busy_undisturbed, busy_endsBy, busy_validBeyond, n, hn, final, hrun,
      hreturned⟩
  · exact absurd hdropped busy_not_dropped

/-- One client writes a value. Another has read an older one, which it drops after that, and then
reads. -/
def stale : Course Bool 86400 where
  writer := false
  reader := true
  key := "a"
  value := .int 2
  lifetime := 60
  directory := []
  start := 0
  before := [.called false (.set "a" (.int 1) 1), .went false, .went false, .went false, .went false,
    .took false, .ticked 10, .called true (.get "a"), .went true, .went true]
  during := [.went false, .went false, .went false, .went false]
  between := [.went true, .took true]
  reading := [.ticked 20]

theorem stale_undisturbed : stale.Undisturbed := by
  refine ⟨fun c op h => ?_, fun c op hop => ?_⟩
  · obtain ⟨rest, htask, -⟩ := h
    cases c with
    | false => contradiction
    | true =>
        obtain ⟨rfl, -⟩ := Task.mk.inj (Option.some.inj htask)
        exact id
  · simp [stale, since] at hop

theorem stale_dropped : stale.Dropped := by
  let placed := reached 86400 [.went false, .went false, .went false] stale.begun
  have hplaced : stale.Placed [.went false] placed :=
    ⟨[.went false, .went false], reached 86400 [.went false, .went false] stale.begun, _, _,
      rfl, rfl, rfl, rfl⟩
  exact ⟨[.went false], placed, true, reached 86400 [.went false] placed, hplaced,
    ⟨_, rfl, nofun⟩, ⟨[.went false], _, rfl, rfl⟩, ⟨_, rfl⟩⟩

/-- What was written is not always found while it is valid, also where nobody else writes or removes
the entry: a client that has read an older document, which has expired, removes the new one in its
stead. -/
theorem stale_finds_nothing :
    stale.Undisturbed ∧ stale.EndsBy 30 ∧ stale.ValidBeyond 30 ∧ stale.Dropped ∧
      ∃ final, run? 86400 [.went true] stale.later = some final ∧
        final.Returned true (.get "a") (.value (.ok none)) := by
  refine ⟨stale_undisturbed, ⟨by decide, by simp [stale, since]⟩, ?_, stale_dropped, ?_⟩
  · exact @validBeyond _ _ _ stale _ 0 (by decide) (by simp [stale]) (by simp [stale]) (by decide)
  · exact ⟨reached 86400 [.went true] stale.later, rfl, rfl⟩

/-- One client writes a floating number and reads it. -/
def inexact : Course Bool 86400 where
  writer := false
  reader := false
  key := "a"
  value := .float tiny
  lifetime := 60
  directory := []
  start := 0
  before := []
  during := [.went false, .went false, .went false, .went false]
  between := [.took false]
  reading := []

theorem inexact_undisturbed : inexact.Undisturbed := by
  refine ⟨fun c op h => ?_, fun c op hop => ?_⟩
  · obtain ⟨rest, htask, -⟩ := h
    contradiction
  · simp [inexact, since] at hop

/-- What a client has found, if it has the reply of a read. -/
def found? (s : Clients ι) (c : ι) : Option (Option Json) :=
  match s.tasks c with
  | some ⟨_, .done (.value (.ok found))⟩ => some found
  | _ => none

theorem eq_float_of_float? {value : Json} {x : Number.Binary64} (h : float? value = some x) :
    value = .float x := by
  cases value with
  | float y => rw [Option.some.inj h]
  | _ => contradiction

/-- A floating number is not read exactly from its text, also by a client that is alone. -/
theorem inexact_finds_other :
    inexact.Undisturbed ∧ inexact.EndsBy 30 ∧ inexact.ValidBeyond 30 ∧
      ∃ final x, run? 86400 [.went false, .went false] inexact.later = some final ∧
        found? final inexact.reader = some (some (.float x)) ∧
        inexact.value = .float tiny ∧ x ≠ tiny := by
  refine ⟨inexact_undisturbed, ⟨by decide, by simp [inexact, since]⟩, ?_, ?_⟩
  · exact @validBeyond _ _ _ inexact _ 0 (by decide) (by simp [inexact]) (by simp [inexact])
      (by decide)
  · have hfound : (((run? 86400 [.went false, .went false] inexact.later).bind
        (found? · inexact.reader)).bind (·.bind float?)).any (· ≠ tiny) = true := by
      decide +kernel
    obtain ⟨x, hx, hne⟩ := (Option.any_eq_true _ _).mp hfound
    obtain ⟨found, hfinal, hx⟩ := Option.bind_eq_some_iff.mp hx
    obtain ⟨final, hrun, hfinal⟩ := Option.bind_eq_some_iff.mp hfinal
    obtain ⟨value, rfl, hx⟩ := Option.bind_eq_some_iff.mp hx
    rw [eq_float_of_float? hx] at hfinal
    exact ⟨final, x, hrun, hfinal, rfl, of_decide_eq_true hne⟩

end Course

end DynamicContent.Cache.FileStore
