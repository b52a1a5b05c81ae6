import WebTestRun.Event.Call
import WebTestRun.Proofs.Json.Gap
import WebTestRun.Proofs.Text.Pieces
import WebTestRun.Proofs.Text.Utf8

/-!
# Events of a stream, however it is read

A stream says the same in whatever portions its bytes arrive, and wherever calls for its events are
given up and made again: the events of its pieces between newlines, and that some of the pieces are
no events. What the reader has told and what it would tell of the other bytes is always what it
tells of all.

* `Event.pieceEvent?`, `Event.Invalid` — the event of a piece, and pieces that are skipped.
* `Event.Tells` — lines tell what the pieces of a stream say, and `entries_tells`.
* `Event.Reading.Sound` — what holds however far a reading is, and `Next.sound`.
* `Event.Reading.exists_ended` — a reading can always go on to its end.
* `Event.Reading.answers_independent_of_reads` — what a reading answers and says.
-/

set_option autoImplicit false

namespace WebTestRun

namespace Event

/-! ## Pieces of a stream -/

/-- The text of a piece, if it is UTF-8. -/
def pieceText? (piece : List UInt8) : Option String := String.fromUTF8? ⟨piece.toArray⟩

/-- The event of a piece that is a text and not blank. -/
def pieceEvent? (piece : List UInt8) : Option Event :=
  (pieceText? piece).bind fun s ↦ if Text.allBlank s.toList then none else (Event.read s).toOption

/-- A piece is no text, or neither blank nor an event. -/
def Invalid (piece : List UInt8) : Prop :=
  ∀ s ∈ pieceText? piece, Text.allBlank s.toList = false ∧ (Event.read s).toOption = none

instance (piece : List UInt8) : Decidable (Invalid piece) := by
  unfold Invalid
  infer_instance

/-- The events of the pieces of a stream. -/
def eventsOf (bytes : List UInt8) : List Event := (bytes.splitOn 10).filterMap pieceEvent?

/-- Which of some pieces are invalid, given the number of the first one. -/
def invalidFrom (number : Nat) (pieces : List (List UInt8)) : List Nat :=
  (pieces.zipIdx number).filterMap fun p ↦ if Invalid p.1 then some p.2 else none

/-- Which pieces of a stream are invalid. The first one has the number 1. -/
def invalidOf (bytes : List UInt8) : List Nat := invalidFrom 1 (bytes.splitOn 10)

/-! ## Lines -/

theorem exists_lineContent (line : List Char) :
    ∃ ending, line = lineContent line ++ ending ∧ ∀ c ∈ ending, c = '\n' ∨ c = '\r' := by
  refine ⟨(line.reverse.takeWhile fun c ↦ c == '\n' || c == '\r').reverse, ?_, fun c hc ↦ ?_⟩
  · rw [lineContent, ← List.reverse_append, List.takeWhile_append_dropWhile, List.reverse_reverse]
  · simpa using List.all_eq_true.mp List.all_takeWhile c (List.mem_reverse.mp hc)

theorem lineContent_concat (line : List Char) :
    lineContent (line ++ ['\n']) = lineContent line := by
  simp [lineContent]

theorem allBlank_lineContent (line : List Char) :
    Text.allBlank (lineContent line) = Text.allBlank line := by
  obtain ⟨ending, hline, hending⟩ := exists_lineContent line
  have hblank : ending.all Text.isBlank = true := by
    refine List.all_eq_true.mpr fun c hc ↦ ?_
    rcases hending c hc with rfl | rfl
    · exact Text.isBlank_newline
    · exact Text.isBlank_return
  conv_rhs => rw [hline, Text.allBlank, List.all_append, hblank, Bool.and_true]
  rfl

/-- What ends a line does not matter to the event that it holds. -/
theorem read_lineContent (line : List Char) :
    Event.read (String.ofList (lineContent line)) = Event.read (String.ofList line) := by
  obtain ⟨ending, hline, hending⟩ := exists_lineContent line
  have hgap : ∀ c ∈ ending, Document.isGap c = true := by
    intro c hc
    rcases hending c hc with rfl | rfl <;> rfl
  conv_rhs => rw [hline, Event.read, Document.ofText?_append_gap _ hgap]
  rfl

/-- A character whose last byte is that of a newline is a newline. -/
theorem eq_newline_of_concat {c : Char} {front : List UInt8}
    (h : String.utf8EncodeChar c = front ++ [10]) : c = '\n' ∧ front = [] := by
  have hten {n : Nat} (hn : n < 256) : [UInt8.ofNat n].getLast? = some 10 → n = 10 :=
    fun hlast ↦ (Text.ofNat_eq_iff hn (by decide)).mp (Option.some.inj hlast)
  have hlast := congrArg List.getLast? h
  rw [List.getLast?_concat, String.utf8EncodeChar] at hlast
  split_ifs at hlast with hascii
  · have hval : c.val.toNat = 10 := hten (by omega) hlast
    obtain rfl : c = '\n' := Char.ext (UInt32.toNat_inj.mp hval)
    exact ⟨rfl, (List.append_inj' (show [] ++ [10] = front ++ [10] from h) rfl).1.symm⟩
  -- The bytes after the first one of a character are 128 at least.
  all_goals
    have hval := hten (n := c.val.toNat % 64 + 128) (by omega) hlast
    omega

/-- The text of a piece with the newline after it. -/
theorem pieceText?_concat (piece : List UInt8) :
    pieceText? (piece ++ [10]) = (pieceText? piece).map (· ++ "\n") := by
  ext s
  simp only [pieceText?, Option.map_eq_some_iff, Utf8.fromUTF8?_eq_some_iff, Text.bytes_eq]
  constructor
  · intro h
    have hne : s.toList ≠ [] := by
      intro hnil
      simp [hnil] at h
    obtain ⟨front, c, hs⟩ : ∃ front c, s.toList = front ++ [c] :=
      ⟨_, _, (List.dropLast_append_getLast hne).symm⟩
    obtain ⟨before, b, hc⟩ : ∃ before b, String.utf8EncodeChar c = before ++ [b] :=
      ⟨_, _, (List.dropLast_append_getLast String.utf8EncodeChar_ne_nil).symm⟩
    rw [hs, List.flatMap_append, List.flatMap_singleton, hc, ← List.append_assoc] at h
    obtain ⟨hpiece, hb⟩ := List.append_inj' h rfl
    obtain rfl := List.singleton_inj.mp hb
    obtain ⟨rfl, rfl⟩ := eq_newline_of_concat hc
    rw [List.append_nil] at hpiece
    refine ⟨String.ofList front, by rw [String.toList_ofList, hpiece], ?_⟩
    rw [← String.toList_inj, String.toList_append, String.toList_ofList, hs]
    rfl
  · rintro ⟨t, rfl, rfl⟩
    rw [String.toList_append, List.flatMap_append]
    rfl

/-- The number of a line that is skipped. -/
def Entry.line? : Entry → Option Nat
  | .event _ => none
  | .skipped line _ => some line

/-- Lines tell what some pieces say, given the number of the first one. -/
structure Tells (number : Nat) (pieces : List (List UInt8)) (entries : List Entry) : Prop where
  /-- The events are those of the pieces. -/
  events : entries.filterMap Entry.event? = pieces.filterMap pieceEvent?
  /-- The lines that are skipped are the pieces that are invalid. -/
  lines : entries.filterMap Entry.line? = invalidFrom number pieces

theorem invalidFrom_cons (number : Nat) (piece : List UInt8) (pieces : List (List UInt8)) :
    invalidFrom number (piece :: pieces) =
      (if Invalid piece then [number] else []) ++ invalidFrom (number + 1) pieces := by
  rw [invalidFrom, List.zipIdx_cons, List.filterMap_cons]
  split_ifs <;> rfl

theorem Tells.cons {number : Nat} {piece : List UInt8} {pieces : List (List UInt8)}
    {entries more : List Entry} (h : Tells number [piece] entries)
    (hmore : Tells (number + 1) pieces more) :
    Tells number (piece :: pieces) (entries ++ more) where
  events := by
    rw [List.filterMap_append, h.events, hmore.events, ← List.filterMap_append,
      List.singleton_append]
  lines := by
    rw [List.filterMap_append, h.lines, hmore.lines, invalidFrom_cons, invalidFrom_cons]
    exact congrArg (· ++ _) (List.append_nil _)

theorem pieceEvent?_of_text {piece : List UInt8} {t : String} (h : pieceText? piece = some t) :
    pieceEvent? piece =
      if Text.allBlank t.toList then none else (Event.read t).toOption := by
  rw [pieceEvent?, h, Option.bind_some]

theorem invalid_of_text {piece : List UInt8} {t : String} (h : pieceText? piece = some t) :
    Invalid piece ↔ Text.allBlank t.toList = false ∧ (Event.read t).toOption = none := by
  rw [Invalid, h]
  simp

/-- What one piece says: its event, or that it is invalid. -/
theorem tells_singleton {number : Nat} {piece : List UInt8} {entries : List Entry}
    (hevents : entries.filterMap Entry.event? = (pieceEvent? piece).toList)
    (hlines : entries.filterMap Entry.line? = if Invalid piece then [number] else []) :
    Tells number [piece] entries where
  events := by
    rw [hevents, List.filterMap_cons]
    cases pieceEvent? piece <;> rfl
  lines := by
    rw [hlines, invalidFrom_cons]
    exact (List.append_nil _).symm

/-- **A line tells what its piece says**, with or without the newline after it. -/
theorem readLine_tells {piece line : List UInt8} (hline : line = piece ∨ line = piece ++ [10])
    (number : Nat) : Tells number [piece] (readLine number line) := by
  have htext := Utf8.toOption_text line
  cases hpiece : pieceText? piece with
  | none =>
    have hnone : pieceText? line = none := by
      rcases hline with rfl | rfl
      · exact hpiece
      · rw [pieceText?_concat, hpiece]
        rfl
    obtain ⟨fault, hfault⟩ : ∃ fault, Utf8.text line = .error fault := by
      rw [← pieceText?, hnone] at htext
      cases hread : Utf8.text line with
      | error fault => exact ⟨fault, rfl⟩
      | ok l =>
        rw [hread] at htext
        cases htext
    rw [readLine, hfault]
    refine tells_singleton (by rw [pieceEvent?, hpiece]; rfl) ?_
    rw [if_pos (by rw [Invalid, hpiece]; exact nofun)]
    rfl
  | some t =>
    obtain ⟨l, hl, hcontent⟩ : ∃ l, pieceText? line = some l ∧
        lineContent l.toList = lineContent t.toList := by
      rcases hline with rfl | rfl
      · exact ⟨t, hpiece, rfl⟩
      · refine ⟨t ++ "\n", by rw [pieceText?_concat, hpiece]; rfl, ?_⟩
        rw [String.toList_append]
        exact lineContent_concat t.toList
    rw [← pieceText?, hl, Answer.toOption_eq_some_iff] at htext
    rw [readLine, htext]
    dsimp only
    rw [hcontent, allBlank_lineContent, read_lineContent, String.ofList_toList]
    have hevent := pieceEvent?_of_text hpiece
    have hinvalid := invalid_of_text hpiece
    cases hblank : Text.allBlank t.toList with
    | true =>
      rw [hblank] at hevent hinvalid
      exact tells_singleton (by rw [hevent]; rfl) (if_neg (by simp [hinvalid])).symm
    | false =>
      rw [hblank] at hevent hinvalid
      cases hread : Event.read t with
      | ok e =>
        rw [hread] at hevent hinvalid
        exact tells_singleton (by rw [hevent]; rfl)
          (if_neg (by simp [hinvalid, Except.toOption])).symm
      | error fault =>
        rw [hread] at hevent hinvalid
        exact tells_singleton (by rw [hevent]; rfl) (if_pos (hinvalid.mpr ⟨rfl, rfl⟩)).symm

end Event

/-! ## What a reader tells -/

namespace EventReader

/-- What a reader tells of some bytes after which the stream ends. -/
def entries (r : EventReader) (bytes : List UInt8) : List Event.Entry :=
  (r.feed bytes).2 ++ (r.feed bytes).1.close

theorem entries_nil (r : EventReader) : r.entries [] = r.close := rfl

theorem foldl_feedNext (bytes : List UInt8) (r : EventReader) (told : Array Event.Entry) :
    (bytes.foldl feedNext (r, told)).1 = (r.feed bytes).1 ∧
      (bytes.foldl feedNext (r, told)).2.toList = told.toList ++ (r.feed bytes).2 := by
  unfold feed
  induction bytes generalizing r told with
  | nil => exact ⟨rfl, (List.append_nil _).symm⟩
  | cons b bytes ih =>
    simp only [List.foldl_cons, feedNext]
    obtain ⟨hfirst, hsecond⟩ := ih (r.feedByte b).1 (told ++ (r.feedByte b).2)
    obtain ⟨hfirst', hsecond'⟩ :=
      ih (r.feedByte b).1 ((#[] : Array Event.Entry) ++ (r.feedByte b).2)
    refine ⟨hfirst.trans hfirst'.symm, ?_⟩
    rw [hsecond, hsecond']
    simp

/-- **What a reader tells** is what it tells of the next byte, and then of the others. -/
theorem entries_cons (r : EventReader) (b : UInt8) (bytes : List UInt8) :
    r.entries (b :: bytes) = (r.feedByte b).2 ++ (r.feedByte b).1.entries bytes := by
  have hfold :=
    foldl_feedNext bytes (r.feedByte b).1 ((#[] : Array Event.Entry) ++ (r.feedByte b).2)
  have hfeed : r.feed (b :: bytes) = ((r.feedByte b).1.feed bytes |>.1,
      (r.feedByte b).2 ++ ((r.feedByte b).1.feed bytes).2) := by
    refine Prod.ext hfold.1 (hfold.2.trans ?_)
    simp
  rw [entries, hfeed, entries, List.append_assoc]

theorem entries_of_pending_nil {r : EventReader} (h : r.pending = []) : r.entries [] = [] := by
  rw [entries_nil, close, h]
  rfl

/-- **What a reader tells are the pieces of a stream**, of which it has read the start of one. -/
theorem entries_tells {r : EventReader} (h : 10 ∉ r.pending) (bytes : List UInt8) :
    Event.Tells (r.lines + 1) ((r.pending.reverse ++ bytes).splitOn 10) (r.entries bytes) := by
  have hpiece : 10 ∉ r.pending.reverse := fun hmem ↦ h (List.mem_reverse.mp hmem)
  induction bytes generalizing r with
  | nil =>
    rw [List.append_nil, Text.splitOn_of_notMem hpiece, entries_nil, close]
    split
    · rename_i hempty
      rw [List.isEmpty_iff.mp hempty]
      exact Event.readLine_tells (.inl rfl) _
    · exact Event.readLine_tells (.inl rfl) _
  | cons b bytes ih =>
    rw [entries_cons, feedByte]
    split
    · rename_i hnewline
      rw [hnewline, List.splitOn_append_cons_self, Text.splitOn_of_notMem hpiece,
        List.singleton_append]
      refine .cons (Event.readLine_tells (.inr List.reverse_cons) _) ?_
      exact ih (r := { lines := r.lines + 1 }) List.not_mem_nil List.not_mem_nil
    · rename_i hne
      have hpending : 10 ∉ b :: r.pending := by
        rw [List.mem_cons, not_or]
        exact ⟨Ne.symm hne, h⟩
      have hrest := ih (r := { r with pending := b :: r.pending }) hpending
        fun hmem ↦ hpending (List.mem_reverse.mp hmem)
      rw [List.reverse_cons, List.append_assoc, List.singleton_append] at hrest
      exact hrest

end EventReader

namespace Event

/-- **What the lines of a stream tell** are its pieces. -/
theorem readStream_tells (bytes : ByteArray) :
    Tells 1 (bytes.data.toList.splitOn 10) (readStream bytes) :=
  EventReader.entries_tells (r := {}) List.not_mem_nil bytes.data.toList

/-! ## Readings -/

/-- A log line says that a line was skipped. -/
def Mentions (line : Nat) (log : Log) : Prop :=
  ∃ reason : String, log = .warning .input s!"skipping line {line} of event stream: {reason}"

/-- Every line that is skipped is mentioned once, in order. -/
theorem mentions_logs (entries : List Entry) :
    List.Forall₂ Mentions (entries.filterMap Entry.line?) (entries.flatMap Entry.logs) := by
  induction entries with
  | nil => exact .nil
  | cons entry entries ih =>
    cases entry with
    | event e => exact ih
    | skipped line reason => exact .cons ⟨reason, rfl⟩ ih

namespace Reading

variable {bytes : List UInt8} {t u : Reading}

/-- What holds however far a reading is. -/
structure Sound (bytes : List UInt8) (t : Reading) : Prop where
  /-- What was told and what the reader would tell of the other bytes is what it tells of all. -/
  told : ∃ told,
    told ++ t.reader.entries (t.arrived ++ t.coming) = ({} : EventReader).entries bytes ∧
    t.answers = told.filterMap Entry.event? ∧ t.logs = told.flatMap Entry.logs
  /-- At the end there is nothing more to tell. -/
  ended : t.ended = true → t.reader.entries (t.arrived ++ t.coming) = []

theorem start_sound (bytes : List UInt8) : Sound bytes (start bytes) :=
  ⟨⟨[], rfl, rfl, rfl⟩, nofun⟩

/-- The reader goes on. -/
theorem Sound.proceed (h : Sound bytes t) (arrived : List UInt8) {now : EventReader × List Entry}
    (hnow : t.reader.entries (t.arrived ++ t.coming) =
      now.2 ++ now.1.entries (arrived ++ t.coming)) :
    Sound bytes ({ t with arrived }.proceed now) := by
  obtain ⟨told, hall, hanswers, hlogs⟩ := h.told
  refine ⟨⟨told ++ now.2, ?_, ?_, ?_⟩, fun hended ↦ ?_⟩
  · rw [← hall, hnow, List.append_assoc]
    rfl
  · rw [List.filterMap_append, ← hanswers]
    rfl
  · rw [List.flatMap_append, ← hlogs]
    rfl
  · have hnone := h.ended hended
    rw [hnow] at hnone
    exact (List.append_eq_nil_iff.mp hnone).2

/-- **Every step keeps what the bytes say.** -/
theorem Next.sound (hn : Next t u) (h : Sound bytes t) : Sound bytes u := by
  cases hn with
  | arrive hcoming =>
    obtain ⟨told, hall, hanswers, hlogs⟩ := h.told
    rename_i portion rest
    have hbytes : t.arrived ++ portion ++ rest = t.arrived ++ t.coming := by
      rw [hcoming, List.append_assoc]
    exact ⟨⟨told, hbytes ▸ hall, hanswers, hlogs⟩, hbytes ▸ h.ended⟩
  | call _ _ => exact ⟨h.told, h.ended⟩
  | cancel _ => exact ⟨h.told, h.ended⟩
  | read _ harrived =>
    refine h.proceed _ ?_
    rw [harrived, List.cons_append, EventReader.entries_cons]
  | complete _ hcoming harrived hpending =>
    refine h.proceed t.arrived ?_
    have hclose : t.reader.close = t.reader.complete.2 :=
      if_neg (by simpa [List.isEmpty_iff] using hpending)
    rw [hcoming, harrived, List.append_nil, EventReader.entries_nil, hclose,
      EventReader.entries_of_pending_nil rfl, List.append_nil]
  | finish _ hcoming harrived hpending =>
    refine ⟨h.told, fun _ ↦ ?_⟩
    dsimp only
    rw [hcoming, harrived]
    exact EventReader.entries_of_pending_nil hpending

/-- **What the bytes say stays the same** however far a reading is. -/
theorem Reaches.sound (h : Reaches (start bytes) t) : Sound bytes t := by
  induction h with
  | refl => exact start_sound bytes
  | step _ hn ih => exact hn.sound ih

/-! ## The end of a reading -/

/-- How much of a reading is left. -/
def left (t : Reading) : Nat :=
  5 * t.coming.length + 4 * t.arrived.length + (if t.reader.pending = [] then 0 else 2) +
    (if t.calling then 0 else 1) + if t.ended then 0 else 2

/-- A reading that has not ended can go on. -/
theorem exists_next_lt (h : t.ended = false) : ∃ u, Next t u ∧ u.left < t.left := by
  by_cases hcoming : t.coming = []
  · cases hcalling : t.calling with
    | false =>
      refine ⟨_, .call hcalling h, ?_⟩
      simp [left, hcalling, h]
    | true =>
      cases harrived : t.arrived with
      | cons b rest =>
        refine ⟨_, .read hcalling harrived, ?_⟩
        simp only [left, proceed, hcoming, harrived, hcalling, h, List.length_cons]
        split_ifs <;> omega
      | nil =>
        by_cases hpending : t.reader.pending = []
        · refine ⟨_, .finish hcalling hcoming harrived hpending, ?_⟩
          simp [left, hcalling, h, hpending]
        · refine ⟨_, .complete hcalling hcoming harrived hpending, ?_⟩
          simp only [left, proceed, EventReader.complete, hcoming, harrived, hcalling, h, hpending,
            List.length_nil, if_true, if_false, Bool.false_eq_true]
          split_ifs <;> omega
  · have hall : t.coming = t.coming ++ [] := (List.append_nil _).symm
    refine ⟨_, .arrive hall, ?_⟩
    have hlength := List.length_pos_iff.mpr hcoming
    simp only [left, List.length_append, List.length_nil]
    omega

/-- **A reading can always go on to its end.** -/
theorem exists_ended (t : Reading) : ∃ u, Reaches t u ∧ u.ended = true := by
  induction hleft : t.left using Nat.strong_induction_on generalizing t with
  | _ n ih =>
    cases hended : t.ended with
    | true => exact ⟨t, .refl, hended⟩
    | false =>
      obtain ⟨u, hnext, hlt⟩ := exists_next_lt hended
      obtain ⟨v, hreaches, hv⟩ := ih u.left (hleft ▸ hlt) u rfl
      exact ⟨v, (Reaches.step .refl hnext).trans hreaches, hv⟩

/-! ## What a reading answers -/

/-- **A stream says the same however it is read.** Wherever calls are given up and however the bytes
arrive, the events that calls were answered with are the first events of the pieces of the stream,
and what was said mentions the first ones of the pieces that are invalid. At the end of the stream
it is all of them, and a reading can always go on to the end. -/
theorem answers_independent_of_reads (h : Reaches (start bytes) t) :
    (t.answers <+: eventsOf bytes ∧
      ∃ lines, lines <+: invalidOf bytes ∧ List.Forall₂ Mentions lines t.logs) ∧
    (t.ended = true →
      t.answers = eventsOf bytes ∧ List.Forall₂ Mentions (invalidOf bytes) t.logs) ∧
    ∃ u, Reaches t u ∧ u.ended = true := by
  obtain ⟨told, hall, hanswers, hlogs⟩ := h.sound.told
  have htells : Tells 1 (bytes.splitOn 10) (({} : EventReader).entries bytes) :=
    EventReader.entries_tells (r := {}) List.not_mem_nil bytes
  have hevents : (({} : EventReader).entries bytes).filterMap Entry.event? = eventsOf bytes :=
    htells.events
  have hlines : (({} : EventReader).entries bytes).filterMap Entry.line? = invalidOf bytes :=
    htells.lines
  refine ⟨⟨?_, told.filterMap Entry.line?, ?_, ?_⟩, fun hended ↦ ⟨?_, ?_⟩, exists_ended t⟩
  · rw [hanswers, ← hevents, ← hall, List.filterMap_append]
    exact List.prefix_append _ _
  · rw [← hlines, ← hall, List.filterMap_append]
    exact List.prefix_append _ _
  · rw [hlogs]
    exact mentions_logs told
  · rw [hanswers, ← hevents, ← hall, h.sound.ended hended, List.append_nil]
  · rw [hlogs, ← hlines, ← hall, h.sound.ended hended, List.append_nil]
    exact mentions_logs told

/-- A byte that starts no character, a blank line, and an event without a newline. -/
def sampleBytes : List UInt8 :=
  [255, 10, 13, 10] ++ Text.bytes "\x7b\"action\": \"log\", \"time\": 1\x7d"

/-- A call is given up in the middle of the first line. -/
theorem answers_independent_of_reads_sample :
    let t : Reading := { coming := sampleBytes.tail, reader := { pending := [255] } }
    Reaches (start sampleBytes) t ∧ ∃ u, Reaches t u ∧ u.ended = true ∧ u.answers.length = 1 ∧
      List.Forall₂ Mentions [1] u.logs := by
  intro t
  have ht : Reaches (start sampleBytes) t :=
    (((Reaches.refl.step (.call rfl rfl)).step
      (.arrive (show sampleBytes = [255] ++ sampleBytes.tail from rfl))).step
      (.read rfl rfl)).step (.cancel rfl)
  obtain ⟨-, -, u, hu, hended⟩ := answers_independent_of_reads ht
  obtain ⟨-, hall, -⟩ := answers_independent_of_reads (ht.trans hu)
  obtain ⟨hanswers, hlogs⟩ := hall hended
  have hevents : (eventsOf sampleBytes).length = 1 := by decide +kernel
  have hinvalid : invalidOf sampleBytes = [1] := by decide +kernel
  exact ⟨ht, u, hu, hended, by rw [hanswers, hevents], hinvalid ▸ hlogs⟩

end Reading

end Event

end WebTestRun
