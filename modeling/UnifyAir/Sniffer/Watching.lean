import Mathlib.Data.Finset.Card
import UnifyAir.Concurrency.System
import UnifyAir.Sniffer.Files

/-!
# UnifyAir — the capture files that are processed

`main_processing_loop_tshark_out` of `sniffer/capturer.py`. tshark prints the name of each capture
file when it closes it; the loop reads what is new in its output, and processes the files line by
line. It remembers the names of the files that it has processed, and forgets the older half of them
when they become too many.

The system is the loop with the output that it watches. What is found of a file comes with the
action that looks at it, and so do the order in which Python lists a set and the times of the files.
The output is taken as Python reads it in text mode: a line of it ends with one `'\n'`, also where a
`'\r'` or a `"\r\n"` was printed, and no `'\r'` is left in it.

* **`readlines_append`** — reading on at the end of a line.
* **`cleanup_spec`** — what is remembered after a cleanup.
* **`every_file_processed`** — after any run, each file that was printed and is stable when it is
  looked at is processed, once.
-/

namespace UnifyAir.Sniffer

open Concurrency

/-! ## Lines

What is read in pieces is to be what would be read at once. This is so if each piece ends where a line
ends. -/

abbrev Line := List Char

/-- A character in front of some lines. -/
def inFront (c : Char) : List Line → List Line
  | [] => [[c]]
  | line :: lines => (c :: line) :: lines

/-- `f.readlines()`, in a text whose lines end with `'\n'` only. The last line may be without its
end. -/
def readlines : List Char → List Line
  | [] => []
  | c :: text => if c = '\n' then [c] :: readlines text else inFront c (readlines text)

/-- Nothing, or a text with the end of its last line. -/
def endsLine (text : List Char) : Bool := text.getLast?.all (· == '\n')

/-- The equation of `readlines`, for rewriting. -/
theorem readlines_cons (c : Char) (text : List Char) :
    readlines (c :: text) =
      if c = '\n' then [c] :: readlines text else inFront c (readlines text) := rfl

theorem inFront_append (c : Char) {lines : List Line} (h : lines ≠ []) (more : List Line) :
    inFront c (lines ++ more) = inFront c lines ++ more := by
  cases lines with
  | nil => exact absurd rfl h
  | cons line lines => rfl

theorem readlines_ne_nil (c : Char) (text : List Char) : readlines (c :: text) ≠ [] := by
  rw [readlines_cons]
  split
  · exact List.cons_ne_nil _ _
  · cases readlines text <;> exact List.cons_ne_nil _ _

/-- **Reading on.** If the first reading came to the end of a line, the lines are those of both.
Otherwise a line would be read in two pieces, and neither would be its name. -/
theorem readlines_append {text : List Char} (h : endsLine text = true) (more : List Char) :
    readlines (text ++ more) = readlines text ++ readlines more := by
  induction text with
  | nil => rfl
  | cons c text ih =>
    cases text with
    | nil =>
      have hc : c = '\n' := eq_of_beq h
      show readlines (c :: more) = readlines [c] ++ readlines more
      rw [readlines_cons, if_pos hc, readlines_cons, if_pos hc]
      rfl
    | cons d text =>
      rw [List.cons_append, readlines_cons, ih h, readlines_cons c]
      split
      · rfl
      · -- the line of `c` is the first of the rest
        exact inFront_append c (readlines_ne_nil d text) _

/-- The file names on some lines. -/
def names (lines : List Line) : List (List Char) := (lines.map strip).filter (· ≠ [])

/-- Lines are looked at one by one, for their names. -/
theorem names_append (lines more : List Line) : names (lines ++ more) = names lines ++ names more := by
  unfold names
  rw [List.map_append, List.filter_append]

/-! ## The loop

Three things can happen, in any order: tshark prints, the new part of the output is read, or the
next line is looked at. Reading comes when no line is left, as the loop goes through the lines
before it waits again. -/

/-- What `rdpcap` makes of a file. -/
abbrev File := Except PyError (List Packet)

structure Watch (D : Type) where
  /-- What tshark has printed, as it is read. -/
  output : List Char
  lastOffset : Nat
  /-- The lines that were read and are still to be looked at. -/
  lines : List Line
  processedFiles : Finset (List Char)
  capture : Capture D

inductive WatchAct where
  -- tshark prints
  | print (text : List Char)
  -- what is new is read: at first, or in `on_modified`
  | read
  -- the next line is looked at; its file is not stable, or it is read. With `list` of the set and
  -- `getctime` of the files, for the cleanup
  | look (file : Option File) (fileList : List (List Char)) (getctime : List Char → Nat)

/-- `max_tracked_files`. -/
def maxTrackedFiles : Nat := 100

/-- `cleanup_processed_files`; `none` if the list is not of the set. -/
def cleanupProcessedFiles (fileList : List (List Char)) (getctime : List Char → Nat)
    (processedFiles : Finset (List Char)) : Option (Finset (List Char)) :=
  if maxTrackedFiles < processedFiles.card then
    if fileList.Nodup ∧ fileList.toFinset = processedFiles then
      some ((fileList.mergeSort fun x y => getctime x ≤ getctime y).drop
        (fileList.length - maxTrackedFiles / 2)).toFinset
    else none
  else some processedFiles

section

variable {D : Type} (hpack : Hpack D) (hyperframe : Hyperframe) (decoder : D)

namespace Watch

def new (D : Type) : Watch D where
  output := []
  lastOffset := 0
  lines := []
  processedFiles := ∅
  capture := .new D

/-- A file that is stable. -/
def process (s : Watch D) (fname : List Char) (rdpcap : File) (fileList : List (List Char))
    (getctime : List Char → Nat) : Option (Watch D) :=
  (cleanupProcessedFiles fileList getctime (insert fname s.processedFiles)).map fun tracked =>
    { s with
      processedFiles := tracked
      capture := s.capture.processPcapFile hpack hyperframe decoder rdpcap }

end Watch

/-- One step of the loop, or of tshark. -/
def watchStep (s : Watch D) : WatchAct → Option (Watch D)
  | .print text => some { s with output := s.output ++ text }
  | .read => match s.lines with
    | [] => some { s with
        lines := readlines (s.output.drop s.lastOffset)
        lastOffset := s.output.length }
    | _ :: _ => none
  | .look file fileList getctime => match s.lines with
    | [] => none
    | line :: lines =>
      let fname := strip line
      let s := { s with lines := lines }
      if fname = [] ∨ fname ∈ s.processedFiles then some s
      else match file with
        | none => some s
        | some rdpcap => s.process hpack hyperframe decoder fname rdpcap fileList getctime

/-- The loop under the output of tshark. -/
def watching : System (Watch D) WatchAct where
  init := .new D
  step := watchStep hpack hyperframe decoder

end

/-! ## What is remembered

The cleanup comes with each file that is processed. With more than 100 names it sorts them by
`getctime`, and keeps the last 50. -/

/-- **A cleanup** leaves no more than 100 files, all of them files that were there; and of those that
it forgets none is more recent than one that it leaves. -/
theorem cleanup_spec {fileList : List (List Char)} {getctime : List Char → Nat}
    {tracked tracked' : Finset (List Char)}
    (h : cleanupProcessedFiles fileList getctime tracked = some tracked') :
    tracked'.card ≤ maxTrackedFiles ∧ tracked' ⊆ tracked ∧
      ∀ x ∈ tracked', ∀ y ∈ tracked, y ∉ tracked' → getctime y ≤ getctime x := by
  unfold cleanupProcessedFiles at h
  split at h
  · split at h
    · next hlist =>
      obtain ⟨hnodup, hset⟩ := hlist
      cases h
      -- sorted, the names are the older ones, which are dropped, and then those that are kept
      let le : List Char → List Char → Bool := fun x y => getctime x ≤ getctime y
      let sorted := fileList.mergeSort le
      let older := sorted.take (fileList.length - maxTrackedFiles / 2)
      let kept := sorted.drop (fileList.length - maxTrackedFiles / 2)
      have hsplit : older ++ kept = sorted := List.take_append_drop ..
      have hmem (x : List Char) : x ∈ tracked ↔ x ∈ older ∨ x ∈ kept := by
        rw [← List.mem_append, hsplit, ← hset, List.mem_toFinset]
        exact List.mem_mergeSort.symm
      have hlength : sorted.length = fileList.length := List.length_mergeSort _
      refine ⟨?_, fun x hx => (hmem x).mpr (.inr (List.mem_toFinset.mp hx)), ?_⟩
      · refine (List.toFinset_card_le _).trans ?_
        show kept.length ≤ maxTrackedFiles
        rw [List.length_drop, hlength]
        unfold maxTrackedFiles
        omega
      · intro x hx y hy hforgotten
        have hpairwise : sorted.Pairwise fun x y => le x y := by
          refine List.pairwise_mergeSort ?_ ?_ _
          · intro x y z hxy hyz
            exact decide_eq_true (Nat.le_trans (of_decide_eq_true hxy) (of_decide_eq_true hyz))
          · intro x y
            rw [Bool.or_eq_true]
            exact (Nat.le_total (getctime x) (getctime y)).imp decide_eq_true decide_eq_true
        rw [← hsplit] at hpairwise
        have holder : y ∈ older :=
          ((hmem y).mp hy).resolve_right fun hkept => hforgotten (List.mem_toFinset.mpr hkept)
        exact of_decide_eq_true
          ((List.pairwise_append.mp hpairwise).2.2 y holder x (List.mem_toFinset.mp hx))
    · cases h
  · next hfew =>
    cases h
    exact ⟨Nat.le_of_not_lt hfew, Finset.Subset.refl _, fun _ _ _ hy hforgotten =>
      absurd hy hforgotten⟩

/-! ## What is processed

The invariant has the lines that were looked at so far. With the lines that are still to be looked
at they are the lines of all that was read. -/

/-- The output is read when its last line is complete. -/
def AtLineEnds {D : Type} (s : Watch D) : WatchAct → Prop
  | .read => endsLine s.output = true
  | .print _ | .look .. => True

instance {D : Type} (s : Watch D) : ∀ a, Decidable (AtLineEnds s a)
  | .read => inferInstanceAs (Decidable (endsLine s.output = true))
  | .print _ | .look .. => isTrue trivial

/-- What is found at an action. -/
def WatchAct.found : WatchAct → Option (Option File)
  | .look file _ _ => some file
  | .print _ | .read => none

/-- What was found of the files, line by line. -/
def found (as : List WatchAct) : List (Option File) := as.filterMap WatchAct.found

/-- The file of a line, if it has a name and is stable. -/
def stableFile (looked : Line × Option File) : Option File :=
  if strip looked.1 = [] then none else looked.2

/-- The files of some lines that are there to be processed. -/
def stableFiles (looked : List (Line × Option File)) : List File := looked.filterMap stableFile

/-- What the loop has done of the output, with the lines that it has looked at. -/
structure Watched {D : Type} (hpack : Hpack D) (hyperframe : Hyperframe) (decoder : D)
    (as : List WatchAct) (looked : List Line) (s : Watch D) : Prop where
  offset : s.lastOffset ≤ s.output.length
  endsLine : endsLine (s.output.take s.lastOffset) = true
  lines : readlines (s.output.take s.lastOffset) = looked ++ s.lines
  found : looked.length = (found as).length
  few : s.processedFiles.card ≤ maxTrackedFiles
  tracked : ∀ fname ∈ s.processedFiles, fname ∈ names looked
  capture : (names looked).Nodup → s.capture = (Capture.new D).processFiles hpack hyperframe decoder
    (stableFiles (looked.zip (Sniffer.found as)))

section

variable {D : Type} {hpack : Hpack D} {hyperframe : Hyperframe} {decoder : D}
  {as : List WatchAct} {looked : List Line} {s s' : Watch D}

/-- What is printed comes behind what was read, and the lines are as they were. -/
theorem Watched.print (h : Watched hpack hyperframe decoder as looked s) (text : List Char) :
    Watched hpack hyperframe decoder (as ++ [.print text]) looked
      { s with output := s.output ++ text } := by
  have hfound : Sniffer.found (as ++ [.print text]) = Sniffer.found as := by
    unfold Sniffer.found
    rw [List.filterMap_append]
    exact List.append_nil _
  have htake : (s.output ++ text).take s.lastOffset = s.output.take s.lastOffset :=
    List.take_append_of_le_length h.offset
  refine ⟨?_, ?_, ?_, hfound ▸ h.found, h.few, h.tracked, hfound ▸ h.capture⟩
  · rw [List.length_append]
    exact Nat.le_add_right_of_le h.offset
  · show Sniffer.endsLine ((s.output ++ text).take s.lastOffset) = true
    rw [htake]
    exact h.endsLine
  · show readlines ((s.output ++ text).take s.lastOffset) = _
    rw [htake]
    exact h.lines

/-- What is new is read when the lines are all looked at. Both what was read and what is new end
with a line, so the lines of the two are those of the whole. -/
theorem Watched.read (h : Watched hpack hyperframe decoder as looked s) (hlines : s.lines = [])
    (hends : Sniffer.endsLine s.output = true) :
    Watched hpack hyperframe decoder (as ++ [.read]) looked
      { s with
        lines := readlines (s.output.drop s.lastOffset)
        lastOffset := s.output.length } := by
  have hfound : Sniffer.found (as ++ [.read]) = Sniffer.found as := by
    unfold Sniffer.found
    rw [List.filterMap_append]
    exact List.append_nil _
  refine ⟨Nat.le_refl _, ?_, ?_, hfound ▸ h.found, h.few, h.tracked, hfound ▸ h.capture⟩
  · show Sniffer.endsLine (s.output.take s.output.length) = true
    rw [List.take_length]
    exact hends
  · show readlines (s.output.take s.output.length) = looked ++ readlines (s.output.drop s.lastOffset)
    have hread := h.lines
    rw [hlines, List.append_nil] at hread
    rw [← hread, ← readlines_append h.endsLine, List.take_append_drop, List.take_length]

/-- A line is looked at. What is remembered and what is processed then are given, as the cases of
the loop differ in these only. -/
theorem Watched.look (h : Watched hpack hyperframe decoder as looked s) {line : Line}
    {lines : List Line} {file : Option File} {fileList : List (List Char)}
    {getctime : List Char → Nat} {tracked : Finset (List Char)} {capture : Capture D}
    (hlines : s.lines = line :: lines) (hfew : tracked.card ≤ maxTrackedFiles)
    (htracked : ∀ fname ∈ tracked, fname ∈ s.processedFiles ∨ fname = strip line ∧ fname ≠ [])
    (hcapture : (strip line ∈ names looked → strip line = []) →
      capture = s.capture.processFiles hpack hyperframe decoder (stableFiles [(line, file)])) :
    Watched hpack hyperframe decoder (as ++ [.look file fileList getctime]) (looked ++ [line])
      { s with lines := lines, processedFiles := tracked, capture := capture } := by
  have hfound : Sniffer.found (as ++ [.look file fileList getctime]) = Sniffer.found as ++ [file] := by
    unfold Sniffer.found
    rw [List.filterMap_append]
    rfl
  have hname : names [line] = if strip line = [] then [] else [strip line] := by
    unfold names
    rw [List.map_singleton, List.filter_singleton]
    by_cases hempty : strip line = [] <;> simp [hempty]
  refine ⟨h.offset, h.endsLine, ?_, ?_, hfew, fun fname hmem => ?_, fun hnodup => ?_⟩
  · rw [List.append_assoc, List.singleton_append, ← hlines]
    exact h.lines
  · rw [hfound, List.length_append, List.length_append, h.found]
    rfl
  · rw [names_append, List.mem_append]
    rcases htracked fname hmem with hold | ⟨rfl, hne⟩
    · exact .inl (h.tracked fname hold)
    · right
      rw [hname, if_neg hne]
      exact List.mem_singleton_self _
  · rw [names_append, hname] at hnodup
    have hnew : strip line ∈ names looked → strip line = [] := by
      intro hmem
      by_contra hne
      rw [if_neg hne] at hnodup
      exact (List.nodup_append.mp hnodup).2.2 _ hmem _ (List.mem_singleton_self _) rfl
    have hbefore := h.capture (List.nodup_append.mp hnodup).1
    show capture = _
    rw [hcapture hnew, hbefore, hfound, List.zip_append h.found]
    unfold stableFiles Capture.processFiles
    rw [List.filterMap_append, List.foldl_append]
    rfl

/-- **One step.** A line without a name, one that is remembered, one whose file is not stable, and
one whose file is processed. -/
theorem Watched.step {a : WatchAct} (h : Watched hpack hyperframe decoder as looked s)
    (hends : AtLineEnds s a) (hstep : (watching hpack hyperframe decoder).step s a = some s') :
    ∃ looked', Watched hpack hyperframe decoder (as ++ [a]) looked' s' := by
  cases a with
  | print text =>
    cases hstep
    exact ⟨looked, h.print text⟩
  | read =>
    simp only [watching, watchStep] at hstep
    split at hstep
    · next hlines =>
      cases hstep
      exact ⟨looked, h.read hlines hends⟩
    · cases hstep
  | look file fileList getctime =>
    simp only [watching, watchStep] at hstep
    split at hstep
    · cases hstep
    · next line lines hlines =>
      refine ⟨looked ++ [line], ?_⟩
      have hold : ∀ fname ∈ s.processedFiles, fname ∈ s.processedFiles ∨
          fname = strip line ∧ fname ≠ [] := fun _ hmem => .inl hmem
      split at hstep
      · next hpassed =>
        -- no name, or one that is remembered
        cases hstep
        refine h.look hlines h.few hold fun hnew => ?_
        have hempty : strip line = [] := hpassed.elim id fun hmem => hnew (h.tracked _ hmem)
        have hnone : stableFile (line, file) = none := if_pos hempty
        unfold stableFiles
        rw [List.filterMap_cons_none hnone]
        rfl
      · next hfresh =>
        rw [not_or] at hfresh
        split at hstep
        · -- not stable
          cases hstep
          refine h.look hlines h.few hold fun _ => ?_
          have hnone : stableFile (line, none) = none := ite_self _
          unfold stableFiles
          rw [List.filterMap_cons_none hnone]
          rfl
        · next rdpcap =>
          obtain ⟨tracked, hcleanup, rfl⟩ := Option.map_eq_some_iff.mp hstep
          obtain ⟨hfew, hsubset, -⟩ := cleanup_spec hcleanup
          refine h.look hlines hfew (fun fname hmem => ?_) fun _ => ?_
          · rcases Finset.mem_insert.mp (hsubset hmem) with rfl | hmem
            · exact .inr ⟨rfl, hfresh.1⟩
            · exact .inl hmem
          · have hsome : stableFile (line, some rdpcap) = some rdpcap := if_neg hfresh.1
            unfold stableFiles
            rw [List.filterMap_cons_some hsome]
            rfl

end

/-- **Every file is processed, once.** If what tshark prints is read at the ends of lines, and the
names that were looked at are different, the files that were processed are those that were stable, in
the order of their lines; no line that was read is lost, and 100 files at most are remembered. -/
theorem every_file_processed {D : Type} {hpack : Hpack D} {hyperframe : Hyperframe} {decoder : D}
    {as : List WatchAct} {s : Watch D}
    (run : (watching hpack hyperframe decoder).RunUnder AtLineEnds as s) :
    ∃ looked, Watched hpack hyperframe decoder as looked s := by
  refine run.history (P := fun as s => ∃ looked, Watched hpack hyperframe decoder as looked s)
    ⟨[], Nat.le_refl 0, rfl, rfl, rfl, Nat.zero_le _, fun _ hmem => ?_, fun _ => rfl⟩ ?_
  · exact absurd hmem (Finset.notMem_empty _)
  · rintro as s a s' - ⟨looked, h⟩ hends hstep
    exact h.step hends hstep

/-- A packet from the gNB to the AMF. -/
def setupPacket : Packet where
  ip := some ("10.0.1.0".toList, "10.0.0.2".toList)
  sctp := some ⟨38412, 38412, [0x00, 0x15]⟩
  tcp := none

/-- Three files are printed. The first has a packet, the second is not stable when its line is looked
at, and the third has not been looked at. -/
def threeFiles : List WatchAct :=
  [.print "a.pcap\n".toList, .read, .print "b.pcap\nc.pcap\n".toList,
    .look (some (.ok [setupPacket])) [] (fun _ => 0), .read, .look none [] fun _ => 0]

/-- What is stored is what the first file has in it. -/
theorem every_file_processed_threeFiles :
    ∃ s, (watching getDecoder checkStreamId ()).RunUnder AtLineEnds threeFiles s ∧
      s.lines = ["c.pcap\n".toList] ∧
      s.capture =
        (Capture.new Unit).processFiles getDecoder checkStreamId () [.ok [setupPacket]] ∧
      s.capture.reconstructedPayloads.map (·.payload) = [some [0x00, 0x15]] := by
  let s := (((watching getDecoder checkStreamId ()).guarded fun s a =>
    decide (AtLineEnds s a)).exec threeFiles).get (by decide)
  have hrun : (watching getDecoder checkStreamId ()).RunUnder AtLineEnds threeFiles s :=
    .of_decide (by simp [s])
  obtain ⟨looked, h⟩ := every_file_processed hrun
  obtain rfl : looked = ["a.pcap\n".toList, "b.pcap\n".toList] := by
    have hlines : looked ++ ["c.pcap\n".toList] =
        ["a.pcap\n".toList, "b.pcap\n".toList] ++ ["c.pcap\n".toList] := h.lines.symm
    exact List.append_cancel_right hlines
  exact ⟨s, hrun, rfl, h.capture (by decide), rfl⟩

end UnifyAir.Sniffer
