/-
What a reader gets of a local file. A source remembers what it opened last and how long that
was; a read is answered from whatever the file holds by the time its task comes up. Whether
there is something to read is decided by the size of the opening, and whether it is there by
the file: past the remembered size nothing is read, below it the bytes have to be there, and
a file that has shrunk since fails the read.

Nothing but opening changes what is remembered, and an opening that fails changes nothing
(`fetched_play`). So the answer to a read is settled by the last opening that succeeded and
by the file at the moment of the look (`serves_readOn`), and a reader who goes on where the
last read ended gets the file from end to end, whatever room each buffer has (`readAll_eq`).
-/
import ReadAhead.Proofs.File.Lifecycle

set_option autoImplicit false

namespace ReadAhead

/-- What can be read of a file or folder: of a folder nothing, whatever its size. -/
def Disk.held (d : Disk) : Disk.Node → Bytes
  | .folder => []
  | .file id => d.bytes id

/-- What was opened, and how long it was then. -/
structure Opening where
  node : Disk.Node
  size : Nat
  deriving DecidableEq, Repr

/-- What opening a path finds. -/
def Opening.find? (disk : Disk) (path : Bytes) : Option Opening :=
  (disk.find? path).map fun node => ⟨node, disk.size node⟩

/-- The answer that a read has coming from what was opened last. -/
structure Answer.Serves (answer : Answer) (opening : Option Opening) (disk : Disk) (ask : Ask) :
    Prop where
  /-- The buffer that comes back is as long as the one that was given. -/
  length : answer.buffer.length = ask.buffer.length
  /-- Nothing was ever opened. -/
  closed : opening = none → answer.result = .failed (.invalidRead .notOpen)
  /-- Past the end nothing is read, and the buffer is left alone. -/
  ended : ∀ o, opening = some o → o.size ≤ ask.position →
    answer.result = .done 0 ∧ answer.buffer = ask.buffer
  /-- What is there is copied, and the rest of the buffer left alone. -/
  copied : ∀ o, opening = some o → ask.position < o.size →
    let count := min ask.buffer.length (o.size - ask.position)
    ask.position + count ≤ (disk.held o.node).length →
      answer.result = .done count ∧
        answer.buffer.take count = ((disk.held o.node).drop ask.position).take count ∧
        answer.buffer.drop count = ask.buffer.drop count
  /-- What ought to be there and is not fails the read. -/
  short : ∀ o, opening = some o → ask.position < o.size →
    let count := min ask.buffer.length (o.size - ask.position)
    (disk.held o.node).length < ask.position + count →
      ∃ fault, answer.result = .failed (.file fault)

namespace FileSource

/-! ## One read -/

/-- What a source remembers of the last opening, if there was one. -/
structure Remembers (s : FileSource) (opening : Option Opening) : Prop where
  handle : s.handle = opening.map (·.node)
  total : s.total = opening.map (·.size)

section

variable {source : FileSource} {disk : Disk} {read : Read}

/-- **To open** finds something and remembers it with its size, or finds nothing and changes
nothing. -/
theorem openOn_outcome (source : FileSource) (disk : Disk) :
    (∃ node, disk.find? source.path = some node ∧ source.openOn disk =
        (true, { source with handle := some node, total := some (disk.size node) })) ∨
      disk.find? source.path = none ∧ source.openOn disk = (false, source) := by
  unfold openOn
  cases disk.find? source.path with
  | some node => exact .inl ⟨node, rfl, rfl⟩
  | none => exact .inr ⟨rfl, rfl⟩

/-- **A read at the end** leaves its buffer alone. -/
theorem readOn_of_le {node : Disk.Node} {size : Nat} (hnode : source.handle = some node)
    (hsize : source.total = some size) (h : size ≤ read.position) :
    source.readOn disk read = (.done 0, read) := by
  have hwant : min (size - read.position) read.size = 0 := by omega
  simp [readOn, hnode, hsize, hwant]

/-- **A read in front of the end** looks for its bytes in the file, and all of them have to be
there. A folder is a file of which nothing is there. -/
theorem readOn_of_lt (disk : Disk) {node : Disk.Node} {size : Nat}
    (hnode : source.handle = some node) (hsize : source.total = some size)
    (h : read.position < size) (room : 0 < read.size) :
    let count := min read.size (size - read.position)
    (read.position + count ≤ (disk.held node).length →
      source.readOn disk read =
        (.done count, read.write (((disk.held node).drop read.position).take count))) ∧
      ((disk.held node).length < read.position + count →
        ∃ fault, (source.readOn disk read).1 = .failed (.file fault)) := by
  intro count
  have hcount : min (size - read.position) read.size = count := Nat.min_comm _ _
  have hpos : count ≠ 0 := by omega
  cases node with
  | folder =>
    have hresult : (source.readOn disk read).1 = .failed (.file .isDirectory) := by
      simp [readOn, hnode, hsize, hcount, hpos]
    refine ⟨fun hthere => ?_, fun _ => ⟨_, hresult⟩⟩
    rw [Disk.held, List.length_nil] at hthere
    omega
  | file id =>
    have hfound : (((disk.bytes id).drop read.position).take count).length =
        min count ((disk.bytes id).length - read.position) := by
      rw [List.length_take, List.length_drop]
    constructor
    · intro hthere
      have hall : (((disk.bytes id).drop read.position).take count).length = count := by
        rw [hfound]
        simp only [Disk.held] at hthere
        omega
      simp only [readOn, hnode, hsize, Option.getD_some, hcount, if_neg hpos, if_pos hall]
      rfl
    · intro hgone
      have hshort : (((disk.bytes id).drop read.position).take count).length ≠ count := by
        rw [hfound]
        simp only [Disk.held] at hgone
        omega
      refine ⟨.shortRead, ?_⟩
      simp only [readOn, hnode, hsize, Option.getD_some, hcount, if_neg hpos, if_neg hshort]

/-- What is written into a buffer with room for it stands in front, and the rest stays. -/
theorem take_drop_write (read : Read) {bytes : Bytes} {count : Nat} (hlength : bytes.length = count)
    (hroom : count ≤ read.size) :
    (read.write bytes).buffer.take count = bytes ∧
      (read.write bytes).buffer.drop count = read.buffer.drop count := by
  have hall : bytes.take read.size = bytes := List.take_of_length_le (by omega)
  subst hlength
  rw [Read.write, hall]
  exact ⟨List.take_left, List.drop_left⟩

/-- **A read is answered as the last opening and the file have it.** -/
theorem serves_readOn {opening : Option Opening} (h : source.Remembers opening)
    (room : read.buffer ≠ []) :
    Answer.Serves ⟨read.tag, (source.readOn disk read).1, (source.readOn disk read).2.buffer⟩
      opening disk ⟨read.position, read.buffer⟩ := by
  have hlength := source.length_readOn disk read
  have hroom : 0 < read.size := List.length_pos_iff.2 room
  cases opening with
  | none =>
    have hnode : source.handle = none := h.handle
    refine ⟨hlength, fun _ => ?_, nofun, nofun, nofun⟩
    simp [readOn, hnode]
  | some o =>
    have hnode : source.handle = some o.node := h.handle
    have hsize : source.total = some o.size := h.total
    refine ⟨hlength, nofun, fun o' ho => ?_, fun o' ho => ?_, fun o' ho => ?_⟩ <;>
      obtain rfl := Option.some.inj ho
    · intro hend
      rw [readOn_of_le hnode hsize hend]
      exact ⟨rfl, rfl⟩
    · intro hbefore count hthere
      obtain ⟨hread, -⟩ := readOn_of_lt disk hnode hsize hbefore hroom
      have hcount : (((disk.held o.node).drop read.position).take count).length = count := by
        dsimp only at hthere
        simp only [List.length_take, List.length_drop]
        omega
      rw [hread hthere]
      exact ⟨rfl, take_drop_write read hcount (Nat.min_le_left _ _)⟩
    · intro hbefore count hgone
      exact (readOn_of_lt disk hnode hsize hbefore hroom).2 hgone

end

namespace Session

/-! ## What is remembered -/

/-- The files after one more move, and the last opening of a path that found something. -/
def recalled (path : Bytes) (known : Disk × Option Opening) : Move → Disk × Option Opening
  | .alter disk => (disk, known.2)
  | .requestOpen => (known.1, (Opening.find? known.1 path).or known.2)
  | .ask _ _ | .stop | .drop | .step _ => known

/-- The last opening of a path on a run that found something. -/
def lastOpening (path : Bytes) (disk : Disk) (moves : List Move) : Option Opening :=
  (moves.foldl (recalled path) (disk, none)).2

/-- A session has these files, and its source remembers this opening of the path. -/
structure Recalls (path : Bytes) (s : Session) (known : Disk × Option Opening) : Prop where
  disk : s.disk = known.1
  source : ∀ source, s.source = some source → source.path = path ∧ source.Remembers known.2

variable {path : Bytes} {s t : Session} {known : Disk × Option Opening}

/-- Whether a read waits makes no difference to what is remembered. -/
theorem Recalls.of_pending (h : s.Recalls path known) {source : FileSource}
    (present : s.source = some source) (stopped : Bool) (pending : Option Read)
    (hdisk : t.disk = s.disk)
    (hsource : t.source = some { source with stopped := stopped, pending := pending }) :
    t.Recalls path known := by
  obtain ⟨hpath, hnode, hsize⟩ := h.source source present
  refine ⟨hdisk.trans h.disk, fun later hlater => ?_⟩
  obtain rfl := Option.some.inj (hsource.symm.trans hlater)
  exact ⟨hpath, hnode, hsize⟩

/-- **Asking** opens nothing. The induction is on the plan, as for what is asked. -/
theorem Recalls.ask (h : s.Recalls path known) (place : Place) (plan : Plan) :
    (s.ask place plan).Recalls path known := by
  induction plan generalizing s with
  | done => exact h
  | ask first inside rest ihInside ihRest =>
    cases hsource : s.source with
    | none =>
      rw [ask_gone hsource]
      exact h
    | some source =>
      cases hrefusal : source.refusal? first with
      | some failure =>
        have hturned : (s.turnAway place first failure).Recalls path known := ⟨h.disk, h.source⟩
        rw [ask_refused hsource place inside rest hrefusal]
        exact ihRest (ihInside hturned)
      | none =>
        rw [ask_accepted hsource place inside rest hrefusal]
        exact ihRest (h.of_pending hsource _ _ rfl rfl)

/-- A task that is handed out opens nothing: to open is done before its task is posted. -/
theorem Recalls.turn {choice : Runner.Choice} {inside : Plan} (hturn : Turn s choice t inside)
    (h : s.Recalls path known) : t.Recalls path known := by
  cases hturn with
  | ignored | told => exact ⟨h.disk, h.source⟩
  | completed left handed source read present => exact h.of_pending present _ _ rfl rfl

theorem Recalls.takeLeave (h : s.Recalls path known) {source : FileSource}
    (present : s.source = some source) {left : Option FileSource}
    (hleft : left = some source.retired ∨ left = none) :
    (s.takeLeave source left).Recalls path known := by
  rcases hleft with rfl | rfl
  · exact h.of_pending present _ _ rfl rfl
  · exact ⟨h.disk, nofun⟩

theorem Recalls.close (h : s.Recalls path known) {m : Move} (hm : m = .stop ∨ m = .drop) :
    (s.move m).Recalls path known := by
  rcases s.close_eq hm with ⟨-, hmove⟩ | ⟨source, left, inside, present, hleft, hmove⟩
  · rw [hmove]
    exact h
  · rw [hmove]
    exact (h.takeLeave present hleft).ask .caller inside

/-- **To open** remembers what is found, and if nothing is found what was remembered. -/
theorem Recalls.tryOpen (h : s.Recalls path known) {source : FileSource}
    (present : s.source = some source) :
    (s.tryOpen source).Recalls path (recalled path known .requestOpen) := by
  obtain ⟨hpath, hknown⟩ := h.source source present
  refine ⟨h.disk, fun later hlater => ?_⟩
  obtain rfl : (source.openOn s.disk).2 = later := Option.some.inj hlater
  simp only [recalled, Opening.find?, ← h.disk, ← hpath]
  rcases source.openOn_outcome s.disk with ⟨node, hfound, hopen⟩ | ⟨hnothing, hopen⟩
  · rw [hopen, hfound]
    exact ⟨rfl, rfl, rfl⟩
  · rw [hopen, hnothing]
    exact ⟨rfl, hknown⟩

/-- **Every move keeps to what the run so far makes known.** -/
theorem Recalls.move (h : s.Recalls path known) (hplain : s.render.Plain) (m : Move) :
    (s.move m).Recalls path (recalled path known m) := by
  cases m with
  | requestOpen =>
    show s.requestOpen.Recalls path _
    cases hsource : s.source with
    | none =>
      rw [requestOpen, hsource]
      exact ⟨h.disk, fun source present =>
        absurd (present.symm.trans hsource) (Option.some_ne_none _)⟩
    | some source =>
      have hopen : s.requestOpen = s.tryOpen source := by
        rw [requestOpen, hsource]
        rfl
      rw [hopen]
      exact h.tryOpen hsource
  | ask place plan => exact h.ask place plan
  | step choice =>
    show (s.step choice).Recalls path known
    rcases step_eq hplain choice with ⟨hstep, -⟩ | ⟨t, inside, hturn, hstep⟩
    · rw [hstep]
      exact h
    · rw [hstep]
      exact (h.turn hturn).ask .render inside
  | stop => exact h.close (.inl rfl)
  | drop => exact h.close (.inr rfl)
  | alter disk => exact ⟨rfl, h.source⟩

/-- **On every run** the source remembers the last opening that found something. -/
theorem recalls_play (path : Bytes) (disk : Disk) (moves : List Move) :
    ((start (.new path) disk).play moves).Recalls path
      (moves.foldl (recalled path) (disk, none)) := by
  induction moves using List.reverseRecOn with
  | nil =>
    refine ⟨rfl, fun source present => ?_⟩
    obtain rfl := Option.some.inj present
    exact ⟨rfl, rfl, rfl⟩
  | append_singleton before m ih =>
    have hplain := (orderly_play path disk before).plain
    rw [play, List.foldl_append, List.foldl_append]
    exact ih.move hplain m

/-! ## One buffer after another -/

/-- Reads on from a position, with one buffer after another and each of them once the one
before is answered, until nothing is read or a read fails. What was read comes with whether
the end was met. -/
def readAll (s : Session) (position : Nat) : List Bytes → Bytes × Bool
  | [] => ([], false)
  | buffer :: rest =>
    let answered := (s.read ⟨position, buffer⟩ .done).settle
    match answered.answersTo s.asked.length with
    | [⟨_, .done 0, _⟩] => ([], true)
    | [⟨_, .done count, out⟩] =>
      let further := answered.readAll (position + count) rest
      (out.take count ++ further.1, further.2)
    | _ => ([], false)

/-- The source is there for a reader: nobody waits, and it is not stopped. -/
structure Free (s : Session) (source : FileSource) : Prop where
  orderly : s.Orderly
  present : s.source = some source
  live : source.stopped = false
  nobody : source.pending = none

/-- The answer that a read of a free source gets from the files as they are. -/
def answerOf (s : Session) (source : FileSource) (ask : Ask) : Answer :=
  let read : Read := ⟨s.asked.length, ask.position, ask.buffer, .done⟩
  ⟨read.tag, (source.readOn s.disk read).1, (source.readOn s.disk read).2.buffer⟩

/-- Since a read was asked for, the runner has only worked: the read waits still, or it has
its answer. -/
structure Awaits (s : Session) (source : FileSource) (ask : Ask) (t : Session) : Prop where
  orderly : t.Orderly
  disk : t.disk = s.disk
  status :
    t.source = some { source with
          pending := some ⟨s.asked.length, ask.position, ask.buffer, .done⟩ } ∧
        t.answers = s.answers ∨
      t.source = some source ∧ t.answers = s.answers ++ [s.answerOf source ask]

variable {source : FileSource} {ask : Ask}

theorem Free.awaits (h : s.Free source) (ask : Ask) (room : ask.buffer ≠ []) :
    Awaits s source ask (s.read ask .done) := by
  have haccepted : source.refusal? ask = none := by
    simp [refusal?, h.live, h.nobody, room]
  have hread : s.read ask .done = s.accept source .caller ask .done :=
    ask_accepted h.present .caller .done .done haccepted
  rw [hread]
  exact ⟨h.orderly.step (.accepted source .caller ask .done h.present haccepted), rfl,
    .inl ⟨rfl, rfl⟩⟩

/-- **A step of the runner** leaves the read waiting, or answers it. -/
theorem Awaits.step (h : Awaits s source ask t) (free : s.Free source) (choice : Runner.Choice) :
    Awaits s source ask (t.step choice) := by
  rcases step_eq h.orderly.plain choice with ⟨hstep, -⟩ | ⟨u, inside, hturn, hstep⟩
  · rw [hstep]
    exact h
  have horderly : u.Orderly := h.orderly.step (.turned choice u inside hturn)
  have hdone : inside = .done ∧ Awaits s source ask u := by
    cases hturn with
    | ignored left handed nobody => exact ⟨rfl, horderly, h.disk, h.status⟩
    | told left tag success handed =>
      refine ⟨rfl, horderly, h.disk, ?_⟩
      rw [answers_told]
      exact h.status
    | completed left handed other read present live waits =>
      rcases h.status with ⟨hwaits, hanswers⟩ | ⟨hsource, hanswers⟩
      · -- The read that was found is the one that was asked for.
        obtain rfl := Option.some.inj (present.symm.trans hwaits)
        obtain rfl := Option.some.inj waits
        refine ⟨rfl, horderly, h.disk, .inr ⟨?_, ?_⟩⟩
        · show some { source with pending := none } = some source
          rw [← free.nobody]
        · rw [answers_complete]
          show t.answers ++ _ = _
          rw [hanswers, show ({ t with render := left } : Session).disk = s.disk from h.disk]
          obtain ⟨htag, -⟩ := source.readOn_same s.disk
            ⟨s.asked.length, ask.position, ask.buffer, .done⟩
          rw [answerOf, ← htag]
          rfl
      · obtain rfl := Option.some.inj (present.symm.trans hsource)
        exact absurd (waits.symm.trans free.nobody) (Option.some_ne_none _)
  obtain ⟨rfl, hawaits⟩ := hdone
  rw [hstep]
  exact hawaits

theorem Awaits.play (h : Awaits s source ask t) (free : s.Free source) (n : Nat) :
    Awaits s source ask (t.play (List.replicate n (.step .own))) := by
  induction n generalizing t with
  | zero => exact h
  | succ n ih => exact ih (h.step free .own)

/-- **A read of a free source is answered** once the runner is drained, from the files as they
are, and leaves the source free. -/
theorem Free.read (h : s.Free source) (ask : Ask) (room : ask.buffer ≠ []) :
    let answered := (s.read ask .done).settle
    answered.Free source ∧ answered.disk = s.disk ∧
      answered.answersTo s.asked.length = [s.answerOf source ask] := by
  intro answered
  have hasked := h.awaits ask room
  obtain ⟨⟨n, hsettle⟩, hdrained⟩ := settle_eq hasked.orderly.plain
  have hawaits : Awaits s source ask answered := by
    show Awaits s source ask (s.read ask .done).settle
    rw [hsettle]
    exact hasked.play h n
  rcases hawaits.status with ⟨hwaits, -⟩ | ⟨hsource, hanswers⟩
  · -- A read that waits has a task, and the runner has none left.
    have hlook := hawaits.orderly.attended _ (pending?_of_source hwaits)
    rw [hawaits.orderly.plain.isBusy_eq_false_iff.1 hdrained] at hlook
    exact absurd hlook List.not_mem_nil
  · refine ⟨⟨hawaits.orderly, hsource, h.live, h.nobody⟩, hawaits.disk, ?_⟩
    have honce : (answered.answersTo s.asked.length).length ≤ 1 :=
      hawaits.orderly.balanced.length_filter_le_one s.asked.length
    have hlast : answered.answersTo s.asked.length =
        s.answersTo s.asked.length ++ [s.answerOf source ask] := by
      rw [answersTo, hanswers, List.filter_append, answersTo]
      simp [answerOf]
    rw [hlast, List.length_append, List.length_singleton] at honce
    have hfirst : s.answersTo s.asked.length = [] := List.length_eq_zero_iff.1 (by omega)
    rw [hlast, hfirst, List.nil_append]

section

variable {position : Nat} {buffer : Bytes} (rest : List Bytes) {answer : Answer}
  (h : (s.read ⟨position, buffer⟩ .done).settle.answersTo s.asked.length = [answer])

include h

/-- Nothing was read: the end is met. -/
theorem readAll_of_end (hresult : answer.result = .done 0) :
    s.readAll position (buffer :: rest) = ([], true) := by
  obtain ⟨tag, result, out⟩ := answer
  subst hresult
  simp only [readAll, h]

/-- Something was read, and it goes on behind that. -/
theorem readAll_of_pos {count : Nat} (hpos : 0 < count) (hresult : answer.result = .done count) :
    let further := (s.read ⟨position, buffer⟩ .done).settle.readAll (position + count) rest
    s.readAll position (buffer :: rest) = (answer.buffer.take count ++ further.1, further.2) := by
  obtain ⟨tag, result, out⟩ := answer
  subst hresult
  obtain ⟨less, rfl⟩ : ∃ less, count = less + 1 := ⟨count - 1, by omega⟩
  simp only [readAll, h]

end

/-- **Reading on from any position gives the rest of the file**, as far as the buffers reach;
the end is met if there are more buffers than bytes, and then all of the rest was read. The
induction is on the buffers: each read leaves the source as it found it. -/
theorem readAll_eq (h : s.Free source) {o : Opening} (known : source.Remembers (some o))
    (whole : (s.disk.held o.node).length = o.size) (position : Nat) (buffers : List Bytes)
    (room : ∀ buffer ∈ buffers, buffer ≠ []) :
    let contents := (s.disk.held o.node).drop position
    (s.readAll position buffers).1 = contents.take buffers.flatten.length ∧
      ((s.readAll position buffers).2 = true → (s.readAll position buffers).1 = contents) ∧
      (contents.length < buffers.length → (s.readAll position buffers).2 = true) := by
  induction buffers generalizing s position with
  | nil => exact ⟨by simp [readAll], nofun, fun hlt => absurd hlt (Nat.not_lt_zero _)⟩
  | cons buffer rest ih =>
    intro contents
    have hroom : buffer ≠ [] := room buffer List.mem_cons_self
    have hpos : 0 < buffer.length := List.length_pos_iff.2 hroom
    have hlength : contents.length = o.size - position := by
      rw [List.length_drop, whole]
    obtain ⟨hfree, hdisk, hanswer⟩ := h.read ⟨position, buffer⟩ hroom
    have hserves :
        (s.answerOf source ⟨position, buffer⟩).Serves (some o) s.disk ⟨position, buffer⟩ :=
      serves_readOn known hroom
    by_cases hend : o.size ≤ position
    · obtain ⟨hresult, -⟩ := hserves.ended o rfl hend
      have hnothing : contents = [] := List.length_eq_zero_iff.1 (by omega)
      rw [readAll_of_end rest hanswer hresult, hnothing]
      exact ⟨List.take_nil.symm, fun _ => rfl, fun _ => rfl⟩
    · let count := min buffer.length (o.size - position)
      have hcount : 0 < count := by omega
      obtain ⟨hresult, hcopied, -⟩ := hserves.copied o rfl (Nat.lt_of_not_le hend) (by
        dsimp only
        omega)
      rw [readAll_of_pos rest hanswer hcount hresult]
      -- The rest of the buffers get what is behind the bytes of the first.
      obtain ⟨hbytes, hall, hmet⟩ := ih hfree (hdisk ▸ whole) (position + count)
        fun other hin => room other (List.mem_cons_of_mem _ hin)
      rw [hdisk, ← List.drop_drop] at hbytes hall hmet
      change _ = contents.take count at hcopied
      have hsplit : contents.take count ++ contents.drop count = contents :=
        List.take_append_drop count contents
      refine ⟨?_, fun hended => ?_, fun hmore => hmet ?_⟩
      · rw [hcopied, hbytes, List.flatten_cons, List.length_append, List.take_add]
        by_cases hfits : buffer.length ≤ o.size - position
        · rw [show count = buffer.length from Nat.min_eq_left hfits]
        · have hrest : contents.drop buffer.length = [] := List.drop_of_length_le (by omega)
          have hbehind : contents.drop count = [] := List.drop_of_length_le (by omega)
          rw [List.take_of_length_le (by omega : contents.length ≤ count),
            List.take_of_length_le (by omega : contents.length ≤ buffer.length), hrest, hbehind]
      · rw [hcopied, hall hended, hsplit]
      · have hless : (contents.drop count).length = contents.length - count := List.length_drop
        rw [List.length_cons] at hmore
        show (contents.drop count).length < rest.length
        omega

/-! ## Every read -/

/-- What was heard stays heard. -/
theorem log_step (h : Step s t) : s.log <+: t.log := by
  cases h with
  | accepted | opened | altered => exact List.prefix_rfl
  | refused | closed => exact List.prefix_append _ _
  | turned choice t inside h =>
    cases h with
    | ignored => exact List.prefix_rfl
    | completed | told => exact List.prefix_append _ _

theorem log_ask (s : Session) (place : Place) (plan : Plan) : s.log <+: (s.ask place plan).log := by
  have hkeep : ∀ t u : Session, Step t u → s.log <+: t.log → s.log <+: u.log :=
    fun _ _ hstep ht => ht.trans (log_step hstep)
  exact (steps_ask s place plan).induction hkeep List.prefix_rfl

/-- **A look that finds a read** answers it first of all. -/
theorem log_step_of_look {left : Runner Task} {read : Read} (present : s.source = some source)
    (live : source.stopped = false) (waits : source.pending = some read)
    {choice : Runner.Choice} (handed : s.render.take choice = (some .look, left)) :
    s.log ++ [.read read.tag (source.readOn s.disk read).1 (source.readOn s.disk read).2.buffer
      .render] <+: (s.step choice).log := by
  have hstep : s.step choice = ({ s with render := left } : Session).look := by
    rw [step, handed]
    rfl
  rcases look_eq { s with render := left } with
    ⟨-, hnobody⟩ | ⟨other, found, hsource, -, hfound, hlook⟩
  · rcases hnobody source present with hstopped | hnone
    · exact absurd (live.symm.trans hstopped) Bool.false_ne_true
    · exact absurd (waits.symm.trans hnone) (Option.some_ne_none _)
  · obtain rfl := Option.some.inj (present.symm.trans hsource)
    obtain rfl := Option.some.inj (waits.symm.trans hfound)
    rw [hstep, hlook, ← (source.readOn_same s.disk read).1]
    exact log_ask (({ s with render := left } : Session).complete source read) .render
      read.followUps

/-- **A source over a local file hands out the file.** On any run, with whatever is done to the
files meanwhile:

- A read whose task comes up while the source is not stopped is answered by that task, as the
  last opening that succeeded and the file at that moment have it.
- Every buffer comes back as long as it was given.
- The size is that of the last opening that succeeded. A request to open that fails leaves the
  source as it was, and with it the size.
- Where the open file is as long as it was when it was opened, reading from its beginning, with
  a buffer of any room for each read and on from where the read before ended, gives the file as
  far as the buffers reach, all of it once a read gets nothing, and one of them does get
  nothing if there are more buffers than bytes. -/
theorem local_reads_exact (path : Bytes) (disk : Disk) (moves : List Move) :
    let s := (start (.new path) disk).play moves
    let opening := lastOpening path disk moves
    (∀ source read choice left, s.source = some source → source.stopped = false →
        source.pending = some read → s.render.take choice = (some .look, left) →
        ∃ (ask : Ask) (answer : Answer), s.asked[read.tag]? = some ask ∧ ask.buffer ≠ [] ∧
          answer.tag = read.tag ∧
          s.log ++ [.read answer.tag answer.result answer.buffer .render] <+:
            (s.step choice).log ∧
          answer.Serves opening s.disk ask) ∧
      (∀ answer ∈ s.answers, ∃ ask, s.asked[answer.tag]? = some ask ∧
        answer.buffer.length = ask.buffer.length) ∧
      (∀ source, s.source = some source → s.size? = opening.map (·.size) ∧
        ∃ success,
          (s.move .requestOpen).render = s.render.post .outside (.report s.opened success) ∧
          (success = true → ∃ node, s.disk.find? path = some node ∧
            (s.move .requestOpen).size? = some (s.disk.size node)) ∧
          (success = false → (s.move .requestOpen).source = s.source ∧
            (s.move .requestOpen).size? = s.size?)) ∧
      ∀ source o, s.source = some source → source.stopped = false → source.pending = none →
        opening = some o → (s.disk.held o.node).length = o.size →
        ∀ buffers : List Bytes, (∀ buffer ∈ buffers, buffer ≠ []) →
          (s.readAll 0 buffers).1 = (s.disk.held o.node).take buffers.flatten.length ∧
            ((s.readAll 0 buffers).2 = true → (s.readAll 0 buffers).1 = s.disk.held o.node) ∧
            ((s.disk.held o.node).length < buffers.length → (s.readAll 0 buffers).2 = true) := by
  intro s opening
  have hs : s.Orderly := orderly_play path disk moves
  have hrecalls : s.Recalls path (moves.foldl (recalled path) (disk, none)) :=
    recalls_play path disk moves
  refine ⟨fun source read choice left present live waits handed => ?_, hs.balanced.returned,
    fun source present => ?_, fun source o present live nobody hopening whole buffers room => ?_⟩
  · have hpending : s.register.pending = some read := (pending?_of_source present).trans waits
    have hroom := hs.balanced.room read hpending
    exact ⟨_, _, hs.balanced.given read hpending, hroom, rfl,
      log_step_of_look present live waits handed,
      serves_readOn (hrecalls.source source present).2 hroom⟩
  · obtain ⟨hpath, -, hsize⟩ := hrecalls.source source present
    have hsame : s.size? = source.total := by
      rw [size?, present]
      rfl
    have hopen : s.move .requestOpen = s.tryOpen source := by
      rw [move, requestOpen, present]
      rfl
    refine ⟨hsame.trans hsize, (source.openOn s.disk).1, by rw [hopen]; rfl, ?_⟩
    rcases source.openOn_outcome s.disk with ⟨node, hfound, htried⟩ | ⟨-, htried⟩
    · have hnew : (s.move .requestOpen).size? = some (s.disk.size node) := by
        rw [hopen, size?, tryOpen, htried]
        rfl
      rw [htried]
      exact ⟨fun _ => ⟨node, hpath ▸ hfound, hnew⟩,
        fun hfailed => absurd hfailed.symm Bool.false_ne_true⟩
    · have hkept : (s.move .requestOpen).source = s.source := by
        rw [hopen, tryOpen, htried, present]
        rfl
      rw [htried]
      exact ⟨fun hopened => absurd hopened Bool.false_ne_true,
        fun _ => ⟨hkept, by rw [size?, size?, hkept]⟩⟩
  · have hfree : s.Free source := ⟨hs, present, live, nobody⟩
    have hknown : source.Remembers (some o) := hopening ▸ (hrecalls.source source present).2
    exact readAll_eq hfree hknown whole 0 buffers room

/-- Five bytes are opened, and one of them is gone by the time a read from the fourth on comes up:
it wants two bytes, and fails. Read at once, they come in buffers of any room. -/
theorem local_reads_exact_shrunk :
    let disk := (Disk.new []).write [109] [1, 2, 3, 4, 5]
    let fresh := start (.new [47, 109]) disk
    let opened : List Move := [.requestOpen, .step .own]
    let later : List Move := [.ask .caller (.ask ⟨3, [9, 9, 9, 9]⟩ .done .done),
      .alter ((Disk.new []).write [109] [1, 2, 3, 4])]
    let s := fresh.play (opened ++ later)
    lastOpening [47, 109] disk (opened ++ later) = some ⟨.file 0, 5⟩ ∧
      (∃ (answer : Answer) (fault : FileFault), answer.tag = 0 ∧
        answer.result = .failed (.file fault) ∧ answer.buffer.length = 4 ∧
        s.log ++ [.read 0 answer.result answer.buffer .render] <+: (s.step .own).log) ∧
      ((fresh.play opened).readAll 0 [[0, 0], [0], [0, 0, 0, 0], [0]]).2 = true ∧
      ((fresh.play opened).readAll 0 [[0, 0], [0], [0, 0, 0, 0], [0]]).1 = [1, 2, 3, 4, 5] := by
  intro disk fresh opened later s
  have hopening : lastOpening [47, 109] disk (opened ++ later) = some ⟨.file 0, 5⟩ := by decide
  obtain ⟨hserved, -⟩ := local_reads_exact [47, 109] disk (opened ++ later)
  obtain ⟨-, -, -, hall⟩ := local_reads_exact [47, 109] disk opened
  have hsource : s.source =
      some ⟨[47, 109], some (.file 0), some 5, false, some ⟨0, 3, [9, 9, 9, 9], .done⟩⟩ := by decide
  obtain ⟨ask, answer, hask, -, htag, hlog, hserves⟩ :=
    hserved _ _ .own _ hsource rfl rfl (by decide : s.render.take .own = (some .look, .idle))
  have hgiven : ask = ⟨3, [9, 9, 9, 9]⟩ :=
    Option.some.inj (hask.symm.trans (by decide : s.asked[0]? = some ⟨3, [9, 9, 9, 9]⟩))
  subst hgiven
  obtain ⟨fault, hfault⟩ := hserves.short _ hopening (by decide) (by decide)
  have hfresh :
      (fresh.play opened).source = some ⟨[47, 109], some (.file 0), some 5, false, none⟩ := by
    decide
  have hmet : ((fresh.play opened).readAll 0 [[0, 0], [0], [0, 0, 0, 0], [0]]).2 = true := by decide
  obtain ⟨-, hwhole, -⟩ := hall _ ⟨.file 0, 5⟩ hfresh rfl rfl (by decide) (by decide)
    [[0, 0], [0], [0, 0, 0, 0], [0]] (by decide)
  refine ⟨hopening, ⟨answer, fault, htag, hfault, hserves.length, ?_⟩, hmet, hwhole hmet⟩
  have htag' : answer.tag = 0 := htag
  rw [← htag']
  exact hlog

end Session

end FileSource

end ReadAhead
