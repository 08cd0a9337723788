import Bibliography.Proofs.Reformatting
import Bibliography.Proofs.ResolvedOptions

/-!
# Runs that check and runs that write

A run takes its files one by one, each as it stands when its turn comes, so that a file that is named
twice is seen as the first turn left it. What stands under a path after a run in place is therefore what
stood there before, formatted as many times as the path was named (`Directory.find?_foldl_format`). A
run that only checks never writes, and foretells whether a run that writes would write anything: up to
the first file that changes nothing is written, so it is enough to look at every file as it stands at
the beginning.

What is shown on the screen does not matter for this; only where detail is asked for and a sort key or a
path holds markup that cannot be read does showing it end a run. Paths that lead to no file are refused
before a run begins (`Invocation.locate_eq_ok_iff`), so an input that cannot be read is a file that does
not hold text.

Main statement: what runs of every kind do, up to the first file that cannot be read
(`Invocation.runsAsAsked`).
-/

namespace Bibliography

open Text

/-! ## §1 Single files -/

/-- A content after it has been formatted in place. A text is replaced by its formatted text if this
differs from what is read, that is from the text with its line breaks unified; everything else stays. -/
def Content.formatted (s : Settings) : Content → Content
  | .text u =>
    if reformat Check.run s (unifyBreaks u) = unifyBreaks u then .text u
    else .text (reformat Check.run s (unifyBreaks u))
  | .undecodable fault => .undecodable fault
  | .directory => .directory

namespace Directory

/-- The text of a file after formatting; a file that cannot be read has none. -/
def formatted (s : Settings) (d : Directory) (path : String) : List Char :=
  match d.readSource path with
  | .ok t => reformat Check.run s t
  | .error _ => []

/-- Whether formatting changes the text of a file. -/
def changes (s : Settings) (d : Directory) (path : String) : Bool :=
  match d.readSource path with
  | .ok t => reformat Check.run s t ≠ t
  | .error _ => false

/-- The directory after a file has been formatted in place: its formatted text is written if it
differs from the text that is read, and else nothing. -/
def format (s : Settings) (d : Directory) (path : String) : Directory :=
  match d.readSource path with
  | .ok t => if reformat Check.run s t = t then d else d.write path (reformat Check.run s t)
  | .error _ => d

/-- Whether a file can be read. -/
def IsReadable (d : Directory) (path : String) : Prop := ∃ t, d.readSource path = .ok t

/-- Whether a path leads to a file that does not hold text. -/
def IsUndecodable (d : Directory) (path : String) : Prop :=
  ∃ fault, d.find? path = some (.undecodable fault)

/-- What is read from a file is its text with the line breaks unified. -/
theorem readSource_eq_ok_iff {d : Directory} {path : String} {t : List Char} :
    d.readSource path = .ok t ↔ ∃ u, d.find? path = some (.text u) ∧ unifyBreaks u = t := by
  unfold readSource read
  split <;> simp_all [Except.mapError]

theorem isReadable_iff {d : Directory} {path : String} :
    d.IsReadable path ↔ ∃ u, d.find? path = some (.text u) := by
  simp only [IsReadable, readSource_eq_ok_iff]
  exact ⟨fun ⟨_, u, hu, _⟩ => ⟨u, hu⟩, fun ⟨u, hu⟩ => ⟨_, u, hu, rfl⟩⟩

theorem not_isReadable_of_isUndecodable {d : Directory} {path : String} (h : d.IsUndecodable path) :
    ¬ d.IsReadable path := by
  obtain ⟨fault, hfault⟩ := h
  rw [isReadable_iff, hfault]
  rintro ⟨u, hu⟩
  cases hu

/-- A path passes the check exactly if it leads to a file, whether or not the file holds text. -/
theorem checkFile_eq_ok_iff {d : Directory} {path : String} :
    d.checkFile path = .ok () ↔ d.IsReadable path ∨ d.IsUndecodable path := by
  rw [isReadable_iff, IsUndecodable, checkFile]
  cases d.find? path with
  | none => simp
  | some content => cases content <;> simp

theorem forM_checkFile_eq_ok_iff {d : Directory} {paths : List String} :
    forM paths d.checkFile = .ok () ↔ ∀ path ∈ paths, d.IsReadable path ∨ d.IsUndecodable path := by
  induction paths with
  | nil => simp [pure, Except.pure]
  | cons path paths ih =>
    rw [List.forM_cons, List.forall_mem_cons, ← checkFile_eq_ok_iff, ← ih]
    cases d.checkFile path <;> simp [bind, Except.bind]

theorem format_of_not_changes {s : Settings} {d : Directory} {path : String}
    (h : d.changes s path = false) : d.format s path = d := by
  unfold changes at h
  unfold format
  cases ht : d.readSource path with
  | error fault => rfl
  | ok t =>
    rw [ht] at h
    exact if_pos (by simpa using h)

theorem foldl_format_of_not_changes {s : Settings} {d : Directory} {paths : List String}
    (h : ∀ path ∈ paths, d.changes s path = false) : paths.foldl (format s) d = d := by
  induction paths with
  | nil => rfl
  | cons path paths ih =>
    rw [List.foldl_cons, format_of_not_changes (h path List.mem_cons_self)]
    exact ih fun p hp => h p (List.mem_cons_of_mem _ hp)

/-- What formatting does to the file itself. -/
theorem find?_format_self (s : Settings) (d : Directory) (path : String) :
    (d.format s path).find? path = (d.find? path).map (Content.formatted s) := by
  unfold format
  cases ht : d.readSource path with
  | ok t =>
    obtain ⟨u, hu, rfl⟩ := readSource_eq_ok_iff.1 ht
    simp only [hu, Option.map_some, Content.formatted]
    split
    · exact hu
    · exact find?_write_self _ _ _
  | error fault =>
    -- what cannot be read is no text, and stays
    cases hfind : d.find? path with
    | none => rfl
    | some content =>
      cases content with
      | text u =>
        rw [readSource_eq_ok_iff.2 ⟨u, hfind, rfl⟩] at ht
        cases ht
      | undecodable fault => rfl
      | directory => rfl

/-- Formatting a file leaves every other one alone. -/
theorem find?_format_of_ne {path other : String} (h : path ≠ other) (s : Settings) (d : Directory) :
    (d.format s other).find? path = d.find? path := by
  unfold format
  split
  · split
    · rfl
    · exact find?_write_of_ne _ h
  · rfl

/-- After files have been formatted in place, one after the other, every path leads to what it led to,
formatted as often as the path was named. -/
theorem find?_foldl_format (s : Settings) (paths : List String) (d : Directory) (path : String) :
    (paths.foldl (format s) d).find? path =
      (d.find? path).map (Content.formatted s)^[paths.count path] := by
  induction paths generalizing d with
  | nil => simp
  | cons other paths ih =>
    rw [List.foldl_cons, ih]
    by_cases hpath : path = other
    · subst hpath
      rw [find?_format_self, List.count_cons_self, Function.iterate_succ, Option.map_map]
    · rw [find?_format_of_ne hpath, List.count_cons_of_ne (Ne.symm hpath)]

/-- A file changes exactly if formatting it in place leaves it with a text other than was read. -/
theorem changes_iff {s : Settings} {d : Directory} {path : String} : d.changes s path = true ↔
    ∃ t, d.readSource path = .ok t ∧ reformat Check.run s t ≠ t ∧
      (d.format s path).find? path = some (.text (reformat Check.run s t)) := by
  unfold changes
  cases ht : d.readSource path with
  -- a file that cannot be read changes nothing
  | error fault => simp
  -- a file that can be read is rewritten when its formatted text differs, and then holds that text
  | ok t =>
    have hwritten (hne : reformat Check.run s t ≠ t) :
        (d.format s path).find? path = some (.text (reformat Check.run s t)) := by
      rw [format, ht]
      exact (congrArg (find? · path) (if_neg hne)).trans (find?_write_self _ _ _)
    simpa using hwritten

/-- One after the other, some file changes in its turn exactly if one changes as it stands at the
beginning: up to the first such file nothing is written. -/
theorem exists_changes_iff {s : Settings} {d : Directory} {paths : List String} :
    (∃ pre path, pre ++ [path] <+: paths ∧ changes s (pre.foldl (format s) d) path = true) ↔
      paths.any (d.changes s) = true := by
  constructor
  · rintro ⟨pre, path, ⟨post, rfl⟩, hchanges⟩
    -- if no file changed as it was found, none of the formattings before would have touched the
    -- directory
    by_contra hnone
    have hnever : ∀ p ∈ pre ++ [path] ++ post, d.changes s p = false := fun p hp =>
      Bool.eq_false_iff.2 fun hc => hnone (List.any_eq_true.2 ⟨p, hp, hc⟩)
    have hpre : ∀ p ∈ pre, d.changes s p = false := fun p hp => hnever p (by simp [hp])
    rw [foldl_format_of_not_changes hpre, hnever path (by simp)] at hchanges
    cases hchanges
  · intro hsome
    induction paths with
    | nil => cases hsome
    -- the first file that changes as it was found is reached with the directory untouched
    | cons first paths ih =>
      cases hfirst : d.changes s first with
      | true => exact ⟨[], first, ⟨paths, rfl⟩, hfirst⟩
      | false =>
        rw [List.any_cons, hfirst, Bool.false_or] at hsome
        obtain ⟨pre, path, ⟨post, rfl⟩, hchanges⟩ := ih hsome
        refine ⟨first :: pre, path, ⟨post, rfl⟩, ?_⟩
        rwa [List.foldl_cons, format_of_not_changes hfirst]

/-- Formatting a file leaves every file, itself included, as readable as it was. -/
theorem isReadable_format_iff {s : Settings} {d : Directory} {other path : String} :
    (d.format s other).IsReadable path ↔ d.IsReadable path := by
  rw [isReadable_iff, isReadable_iff]
  by_cases hpath : path = other
  · subst hpath
    -- formatting the file itself keeps a text a text and leaves every other content as it was
    rw [find?_format_self]
    cases d.find? path with
    | none => simp
    | some content =>
      cases content with
      | text u =>
        simp only [Option.map_some, Content.formatted]
        split <;> simp
      | undecodable fault => simp [Content.formatted]
      | directory => simp [Content.formatted]
  · -- formatting another file does not touch this one
    rw [find?_format_of_ne hpath]

end Directory

/-! ## §2 What is shown -/

/-- Whether a report can be shown. -/
def Screen.Shows (screen : Screen) (r : Report) : Prop := ∃ text, screen.show r = .ok text

/-- Whether everything that is shown about a file can be shown. Without detail it always can; with
detail the sort keys and the path must not hold markup that cannot be read. -/
def Screen.ShowsFile (screen : Screen) (s : Settings) (path : String) : Prop :=
  screen.verbosity = 0 ∨
    ((∀ n, screen.Shows (.notice (.event (.entriesSorted n s.arrangement.sortBy)))) ∧
      (∀ entries, screen.Shows (.duplicates (fileName path) s.layout entries)) ∧
      screen.Shows (.info ("Reformatted " ++ path)))

namespace Progress

/-- What a run has done, but for what was shown. -/
structure Effect where
  directory : Directory
  output : List Char
  wouldChange : Bool

/-- The effect of what has been done so far. -/
def effect (p : Progress) : Effect := ⟨p.directory, p.output, p.wouldChange⟩

/-- Showing a report has no other effect. -/
theorem effect_report {screen : Screen} {r : Report} (h : screen.Shows r) (p : Progress) :
    ∃ q, p.report screen r = .ok q ∧ q.effect = p.effect := by
  obtain ⟨text, htext⟩ := h
  exact ⟨{ p with messages := p.messages ++ text }, by rw [report, htext], rfl⟩

theorem effect_reportDetail {screen : Screen} {r : Report}
    (h : screen.verbosity = 0 ∨ screen.Shows r) (p : Progress) :
    ∃ q, p.reportDetail screen r = .ok q ∧ q.effect = p.effect := by
  unfold reportDetail
  split
  · exact ⟨p, rfl, rfl⟩
  · next hverbose => exact effect_report (h.resolve_left hverbose) p

theorem effect_foldlM_report {screen : Screen} {notices : List Notice}
    (h : ∀ n ∈ notices, screen.Shows (.notice n)) (p : Progress) :
    ∃ q, notices.foldlM (fun p n => p.report screen (.notice n)) p = .ok q ∧
      q.effect = p.effect := by
  induction notices generalizing p with
  | nil => exact ⟨p, rfl, rfl⟩
  | cons n notices ih =>
    -- one notice changes the screen's part of the progress and nothing of the effect
    obtain ⟨p', hp', hstep⟩ := effect_report (h n List.mem_cons_self) p
    obtain ⟨q, hq, hrest⟩ := ih (fun m hm => h m (List.mem_cons_of_mem _ hm)) p'
    refine ⟨q, ?_, hrest.trans hstep⟩
    rw [List.foldlM_cons, hp']
    exact hq

end Progress

/-- A warning can always be shown. -/
theorem Screen.shows_warning (screen : Screen) (message : String) (failures : List Failure) :
    screen.Shows (.notice (.warning message failures)) :=
  ⟨_, rfl⟩

/-- Without detail an event that has a summary is passed over. -/
theorem Screen.shows_entriesSorted {screen : Screen} (h : screen.verbosity = 0) (n : Nat)
    (keys : List String) : screen.Shows (.notice (.event (.entriesSorted n keys))) := by
  refine ⟨[], ?_⟩
  have hmessage : ∃ text, (Event.entriesSorted n keys).message? = .ok (some text) := by
    cases keys with
    | nil => exact ⟨_, rfl⟩
    | cons key keys => exact ⟨_, rfl⟩
  obtain ⟨text, htext⟩ := hmessage
  simp [Screen.show, Screen.notice, htext, h]

/-- Whatever a document reports can be shown if the event that it was sorted can. -/
theorem Document.shows_notices {screen : Screen} {s : Settings}
    (h : ∀ n, screen.Shows (.notice (.event (.entriesSorted n s.arrangement.sortBy))))
    (items : List Occurrence) :
    ∀ n ∈ (Document.ofItems s items).notices, screen.Shows (.notice n) := by
  intro n hn
  simp only [ofItems, arrangeItems] at hn
  -- a sorted document announces the sorting first, then warns of its duplicates
  split at hn
  · rcases List.mem_append.1 hn with hn | hn
    · rw [List.mem_singleton.1 hn]
      exact h _
    · obtain ⟨x, -, rfl⟩ := List.mem_map.1 hn
      exact screen.shows_warning _ _
  · -- an unsorted one has no notices at all
    simp at hn

/-! ## §3 The effect of a run -/

namespace Invocation

/-- What formatting a file does, but for what is shown: a check looks whether its text changes, a run
in place writes it if so, and any other run prints the formatted text. -/
def handle (i : Invocation) (s : Settings) (e : Progress.Effect) (path : String) : Progress.Effect :=
  if i.check then { e with wouldChange := e.wouldChange || e.directory.changes s path }
  else if i.inPlace then { e with directory := e.directory.format s path }
  else { e with output := e.output ++ e.directory.formatted s path }

/-- Delivering the formatted text of a file that has been read. -/
theorem effect_deliver {i : Invocation} {screen : Screen} {s : Settings} {path : String}
    (hshows : screen.ShowsFile s path) {p : Progress} {t : List Char}
    (ht : p.directory.readSource path = .ok t) :
    ∃ q, i.deliver screen p path t (reformat Check.run s t) = .ok q ∧
      q.effect = i.handle s p.effect path := by
  have hdirectory : p.effect.directory = p.directory := rfl
  unfold deliver handle
  rw [hdirectory, Directory.changes, Directory.format, Directory.formatted, ht]
  by_cases hcheck : i.check = true
  · -- a check: the warning about a file that would change can always be shown
    rw [if_pos hcheck, if_pos hcheck]
    by_cases hsame : reformat Check.run s t = t
    · exact ⟨p, if_pos hsame, by simp [hsame, Progress.effect]⟩
    · obtain ⟨q, hq, heffect⟩ := Progress.effect_report
        (screen.shows_warning ("would reformat " ++ path) []) { p with wouldChange := true }
      refine ⟨q, by rw [if_neg hsame, hq], heffect.trans ?_⟩
      simp [hsame, Progress.effect]
  · rw [if_neg hcheck, if_neg hcheck]
    by_cases hplace : i.inPlace = true
    · -- in place: the information that a file was written may hold markup
      rw [if_pos hplace, if_pos hplace]
      by_cases hsame : reformat Check.run s t = t
      · exact ⟨p, if_pos hsame, by simp [hsame, Progress.effect]⟩
      · obtain ⟨q, hq, heffect⟩ := Progress.effect_reportDetail
          (hshows.imp id fun h => h.2.2)
          { p with directory := p.directory.write path (reformat Check.run s t) }
        refine ⟨q, by rw [if_neg hsame, hq], heffect.trans ?_⟩
        simp [hsame, Progress.effect]
    · rw [if_neg hplace, if_neg hplace]
      exact ⟨_, rfl, rfl⟩

/-- The step of a run: a file that can be read is handled. -/
theorem effect_formatFile {i : Invocation} {screen : Screen} {s : Settings} {path : String}
    (hshows : screen.ShowsFile s path) {p : Progress} (hread : p.directory.IsReadable path) :
    ∃ q, i.formatFile screen s p path = .ok q ∧ q.effect = i.handle s p.effect path := by
  obtain ⟨t, ht⟩ := hread
  have hsorted : ∀ n, screen.Shows (.notice (.event (.entriesSorted n s.arrangement.sortBy))) :=
    fun n => hshows.elim (screen.shows_entriesSorted · n _) (·.1 n)
  have hnotices := Document.shows_notices hsorted (Occurrence.number (Reading.ofChars t).items)
  have hfindings : screen.Shows (.findings ((Reading.ofChars t).issues.map Issue.finding)) := ⟨_, rfl⟩
  -- three reports come before the text is delivered
  obtain ⟨p₁, hp₁, heffect₁⟩ := Progress.effect_report hfindings p
  obtain ⟨p₂, hp₂, heffect₂⟩ := Progress.effect_foldlM_report hnotices p₁
  obtain ⟨p₃, hp₃, heffect₃⟩ := Progress.effect_reportDetail
    (hshows.imp id fun h => h.2.1 ((Document.ofItems s
      (Occurrence.number (Reading.ofChars t).items)).duplicates.filterMap (·.item.entry?))) p₂
  have heffect : p₃.effect = p.effect := heffect₃.trans (heffect₂.trans heffect₁)
  have hdirectory : p₃.directory = p.directory := congrArg Progress.Effect.directory heffect
  obtain ⟨q, hq, hdeliver⟩ := effect_deliver (i := i) hshows (p := p₃) (hdirectory ▸ ht)
  refine ⟨q, ?_, heffect ▸ hdeliver⟩
  unfold formatFile
  rw [ht]
  simp only [hp₁, hp₂, hp₃, bind, Except.bind]
  exact hq

theorem isReadable_handle_iff {i : Invocation} {s : Settings} {e : Progress.Effect}
    {other path : String} :
    (i.handle s e other).directory.IsReadable path ↔ e.directory.IsReadable path := by
  unfold handle
  split
  · exact Iff.rfl
  · split
    · exact Directory.isReadable_format_iff
    · exact Iff.rfl

theorem isReadable_foldl_handle_iff {i : Invocation} {s : Settings} {e : Progress.Effect}
    {paths : List String} {path : String} :
    (paths.foldl (i.handle s) e).directory.IsReadable path ↔ e.directory.IsReadable path := by
  induction paths generalizing e with
  | nil => exact Iff.rfl
  | cons other paths ih =>
    rw [List.foldl_cons, ih]
    exact isReadable_handle_iff

/-- The run of files that can be read: they are handled one after the other. -/
theorem effect_foldlM_formatFile {i : Invocation} {screen : Screen} {s : Settings}
    {paths : List String} (hshows : ∀ path ∈ paths, screen.ShowsFile s path) {p : Progress}
    (hread : ∀ path ∈ paths, p.directory.IsReadable path) :
    ∃ q, paths.foldlM (i.formatFile screen s) p = .ok q ∧
      q.effect = paths.foldl (i.handle s) p.effect := by
  induction paths generalizing p with
  | nil => exact ⟨p, rfl, rfl⟩
  | cons path paths ih =>
    obtain ⟨p', hp', hstep⟩ := effect_formatFile (i := i) (hshows path List.mem_cons_self)
      (hread path List.mem_cons_self)
    have hdirectory : p'.directory = (i.handle s p.effect path).directory :=
      congrArg Progress.Effect.directory hstep
    -- the files behind this one can still be read
    have hrest : ∀ other ∈ paths, p'.directory.IsReadable other := by
      intro other hother
      rw [hdirectory, isReadable_handle_iff]
      exact hread other (List.mem_cons_of_mem _ hother)
    obtain ⟨q, hq, hrun⟩ :=
      ih (fun other hother => hshows other (List.mem_cons_of_mem _ hother)) hrest
    refine ⟨q, ?_, ?_⟩
    · rw [List.foldlM_cons, hp']
      exact hq
    · rw [hrun, hstep, List.foldl_cons]

/-- The first file that cannot be read stops a run, whatever stands behind it. -/
theorem effect_foldlM_formatFile_of_unreadable {i : Invocation} {screen : Screen} {s : Settings}
    {pre : List String} {path : String} (hshows : ∀ other ∈ pre, screen.ShowsFile s other)
    {p : Progress} (hpre : ∀ other ∈ pre, p.directory.IsReadable other)
    (hpath : ¬ p.directory.IsReadable path) :
    ∃ stopped : Stopped, stopped.progress.effect = pre.foldl (i.handle s) p.effect ∧
      ∀ rest, (pre ++ path :: rest).foldlM (i.formatFile screen s) p = .error stopped := by
  obtain ⟨q, hq, heffect⟩ := effect_foldlM_formatFile (i := i) hshows hpre
  -- when its turn comes, the file still cannot be read
  have hunread : ¬ q.directory.IsReadable path := by
    have hiff : q.effect.directory.IsReadable path ↔ p.effect.directory.IsReadable path := by
      rw [heffect]
      exact isReadable_foldl_handle_iff
    exact fun h => hpath (hiff.1 h)
  obtain ⟨fault, hfault⟩ : ∃ fault, q.directory.readSource path = .error fault := by
    cases hsource : q.directory.readSource path with
    | ok t => exact absurd ⟨t, hsource⟩ hunread
    | error fault => exact ⟨fault, rfl⟩
  refine ⟨⟨q, fault.failures⟩, heffect, fun rest => ?_⟩
  rw [List.foldlM_append, hq]
  simp only [bind, Except.bind, List.foldlM_cons, formatFile, hfault]

/-- A run that checks: the directory stays, and it is seen whether any text changes. -/
theorem foldl_handle_of_check {i : Invocation} (hcheck : i.check = true) (s : Settings)
    (paths : List String) (e : Progress.Effect) : paths.foldl (i.handle s) e =
      { e with wouldChange := e.wouldChange || paths.any (e.directory.changes s) } := by
  induction paths generalizing e with
  | nil => simp
  | cons path paths ih =>
    rw [List.foldl_cons, ih, handle, if_pos hcheck]
    simp [Bool.or_assoc]

/-- A run in place: only the directory changes. -/
theorem foldl_handle_of_inPlace {i : Invocation} (hcheck : i.check = false) (hplace : i.inPlace = true)
    (s : Settings) (paths : List String) (e : Progress.Effect) : paths.foldl (i.handle s) e =
      { e with directory := paths.foldl (Directory.format s) e.directory } := by
  induction paths generalizing e with
  | nil => rfl
  | cons path paths ih =>
    rw [List.foldl_cons, ih, handle, if_neg (by simp [hcheck]), if_pos hplace]
    rfl

/-- A run that prints: the directory stays, and the formatted texts are put together. -/
theorem foldl_handle_of_print {i : Invocation} (hcheck : i.check = false) (hplace : i.inPlace = false)
    (s : Settings) (paths : List String) (e : Progress.Effect) : paths.foldl (i.handle s) e =
      { e with output := e.output ++ paths.flatMap (e.directory.formatted s) } := by
  induction paths generalizing e with
  | nil => simp
  | cons path paths ih =>
    rw [List.foldl_cons, ih, handle, if_neg (by simp [hcheck]), if_neg (by simp [hplace])]
    simp [List.append_assoc]

end Invocation

/-! ## §4 Whole runs -/

namespace Invocation

/-- Whether all that is shown about the inputs can be shown. It can where no detail is asked for, and
no option of the command asks for it (`Command.verbosity_of_parse_format`). -/
def ShowsInputs (i : Invocation) (width : Nat) (d : Directory) : Prop :=
  ∀ r, i.resolve d = .ok r → ∀ path ∈ i.inputs,
    (⟨width, i.verbosity⟩ : Screen).ShowsFile r.settings path

/-- The effect of the files `paths` on a directory. -/
def effectOn (i : Invocation) (s : Settings) (d : Directory) (paths : List String) : Progress.Effect :=
  paths.foldl (i.handle s) ⟨d, [], false⟩

/-- Helper: once there are settings, a run takes its inputs from a state in which nothing but warnings
about options has been shown. -/
private theorem exists_run_eq {d : Directory} {r : Resolved} (verbosity width : Nat) :
    ∃ p : Progress, p.effect = ⟨d, [], false⟩ ∧ ∀ i : Invocation, i.verbosity = verbosity →
      i.resolve d = .ok r →
        (∀ q, i.inputs.foldlM (i.formatFile ⟨width, verbosity⟩ r.settings) p = .ok q →
          i.run width d = q.outcome) ∧
        ∀ stopped,
          i.inputs.foldlM (i.formatFile ⟨width, verbosity⟩ r.settings) p = .error stopped →
            i.run width d = stopped.outcome ⟨width, verbosity⟩ := by
  -- resolving warns and announces nothing, so its notices go through on every screen
  have hwarnings : ∀ n ∈ r.notices, (⟨width, verbosity⟩ : Screen).Shows (.notice n) := by
    intro n hn
    obtain ⟨issue, -, rfl⟩ := List.mem_map.1 hn
    exact Screen.shows_warning _ _ _
  -- telling them leaves the directory, the output and the verdict as they were at the start
  obtain ⟨p, hp, hstart⟩ := Progress.effect_foldlM_report hwarnings ⟨d, [], [], false⟩
  refine ⟨p, hstart, ?_⟩
  rintro i rfl hr
  refine ⟨fun q hq => ?_, fun stopped hstopped => ?_⟩
  · simp only [run, hr, formatFiles, hp, bind, Except.bind, hq]
  · simp only [run, hr, formatFiles, hp, bind, Except.bind, hstopped]

/-- A run whose configuration and inputs can be read comes to its end. -/
theorem run_of_readable {i : Invocation} {width : Nat} {d : Directory} {r : Resolved}
    (hshows : i.ShowsInputs width d) (hr : i.resolve d = .ok r)
    (hread : ∀ path ∈ i.inputs, d.IsReadable path) :
    (i.run width d).directory = (i.effectOn r.settings d i.inputs).directory ∧
      (i.run width d).output = (i.effectOn r.settings d i.inputs).output ∧
      (i.run width d).exitCode = if (i.effectOn r.settings d i.inputs).wouldChange then 1 else 0 := by
  -- the run goes on from the effect that telling the notices left, which is none
  obtain ⟨p, hstart, hrun⟩ := exists_run_eq (d := d) (r := r) i.verbosity width
  have hdirectory : p.directory = d := congrArg Progress.Effect.directory hstart
  obtain ⟨q, hq, heffect⟩ := effect_foldlM_formatFile (i := i) (hshows r hr) (p := p)
    (by rwa [hdirectory])
  rw [hstart] at heffect
  rw [(hrun i rfl hr).1 q hq, effectOn, ← heffect]
  exact ⟨rfl, rfl, rfl⟩

/-- A run ends at the first input that cannot be read, with what it has done so far; what stands behind
that input does not matter. -/
theorem run_of_unreadable {i : Invocation} {width : Nat} {d : Directory} {r : Resolved}
    (hshows : i.ShowsInputs width d) (hr : i.resolve d = .ok r) {pre post : List String}
    {path : String} (hinputs : i.inputs = pre ++ path :: post)
    (hpre : ∀ other ∈ pre, d.IsReadable other) (hpath : ¬ d.IsReadable path) :
    (i.run width d).directory = (i.effectOn r.settings d pre).directory ∧
      (i.run width d).output = (i.effectOn r.settings d pre).output ∧
      (i.run width d).exitCode = 1 ∧
      i.run width d = { i with inputs := pre ++ [path] }.run width d := by
  obtain ⟨p, hstart, hrun⟩ := exists_run_eq (d := d) (r := r) i.verbosity width
  have hdirectory : p.directory = d := congrArg Progress.Effect.directory hstart
  have hshowsPre : ∀ other ∈ pre, (⟨width, i.verbosity⟩ : Screen).ShowsFile r.settings other :=
    fun other hother => hshows r hr other (hinputs ▸ List.mem_append_left _ hother)
  obtain ⟨stopped, heffect, hstop⟩ := effect_foldlM_formatFile_of_unreadable (i := i) (p := p)
    hshowsPre (by rwa [hdirectory]) (by rwa [hdirectory])
  rw [hstart] at heffect
  have hself : i.run width d = stopped.outcome ⟨width, i.verbosity⟩ :=
    (hrun i rfl hr).2 stopped (by rw [hinputs, hstop post])
  -- formatting a file does not look at the list of inputs
  have hshort : ({ i with inputs := pre ++ [path] } : Invocation).run width d =
      stopped.outcome ⟨width, i.verbosity⟩ :=
    (hrun { i with inputs := pre ++ [path] } rfl hr).2 stopped (hstop [])
  rw [hself, hshort, effectOn, ← heffect]
  exact ⟨rfl, rfl, rfl, rfl⟩

/-- Helper: either all files can be read, or there is a first one that cannot. -/
private theorem readable_or_first_unreadable (d : Directory) (paths : List String) :
    (∀ path ∈ paths, d.IsReadable path) ∨ ∃ pre path post, paths = pre ++ path :: post ∧
      (∀ other ∈ pre, d.IsReadable other) ∧ ¬ d.IsReadable path := by
  induction paths with
  | nil => exact .inl fun path hpath => absurd hpath List.not_mem_nil
  | cons first paths ih =>
    -- the first file that cannot be read is this one or comes later
    by_cases hfirst : d.IsReadable first
    · rcases ih with hall | ⟨pre, path, post, rfl, hpre, hpath⟩
      · exact .inl (List.forall_mem_cons.2 ⟨hfirst, hall⟩)
      · exact .inr ⟨first :: pre, path, post, rfl, List.forall_mem_cons.2 ⟨hfirst, hpre⟩, hpath⟩
    · exact .inr ⟨[], first, paths, rfl, by simp, hfirst⟩

/-- A run that does not get its settings ends at once, whatever the inputs are. -/
theorem run_of_rejected {i : Invocation} {d : Directory} {fault : ConfigFault}
    (h : i.resolve d = .error fault) (width : Nat) : i.run width d =
      Stopped.outcome ⟨width, i.verbosity⟩ ⟨⟨d, [], [], false⟩, fault.failures⟩ := by
  simp only [run, h]

/-- Whatever happens, a run has the effect of some of its inputs, in their order. -/
theorem exists_effectOn {i : Invocation} {width : Nat} {d : Directory}
    (hshows : i.ShowsInputs width d) : ((i.run width d).directory = d ∧ (i.run width d).output = []) ∨
      ∃ s paths, (i.run width d).directory = (i.effectOn s d paths).directory ∧
        (i.run width d).output = (i.effectOn s d paths).output := by
  cases hr : i.resolve d with
  -- rejected options end the run before the first file
  | error fault =>
    rw [run_of_rejected hr]
    exact .inl ⟨rfl, rfl⟩
  | ok r =>
    refine .inr ⟨r.settings, ?_⟩
    -- either all files are read or the run ends in front of the first one that is not
    rcases readable_or_first_unreadable d i.inputs with hall | ⟨pre, path, post, hinputs, hpre, hpath⟩
    · obtain ⟨hdirectory, houtput, -⟩ := run_of_readable hshows hr hall
      exact ⟨i.inputs, hdirectory, houtput⟩
    · obtain ⟨hdirectory, houtput, -⟩ := run_of_unreadable hshows hr hinputs hpre hpath
      exact ⟨pre, hdirectory, houtput⟩

/-! ## §5 What is asked for -/

/-- The check of what an invocation would change; writing may be asked for as well. -/
def checking (i : Invocation) (inPlace : Bool) : Invocation :=
  { i with check := true, inPlace := inPlace }

/-- The invocation that writes what it changes. -/
def writing (i : Invocation) : Invocation := { i with check := false, inPlace := true }

/-- The directory that a run leaves if it is given some inputs and no others. -/
def leaves (i : Invocation) (width : Nat) (d : Directory) (inputs : List String) : Directory :=
  ({ i with inputs := inputs }.run width d).directory

/-- Whether a run rewrites a file: in its turn, the file is left with its formatted text, and this is
not the text that was read. -/
def Rewrites (i : Invocation) (s : Settings) (width : Nat) (d : Directory) : Prop :=
  ∃ pre path t, pre ++ [path] <+: i.inputs ∧ (i.leaves width d pre).readSource path = .ok t ∧
    reformat Check.run s t ≠ t ∧
    (i.leaves width d (pre ++ [path])).find? path = some (.text (reformat Check.run s t))

/-- A command is refused unless all its paths lead to files. -/
theorem locate_eq_ok_iff {asked i : Invocation} {d : Directory} {base : String} :
    asked.locate d base = .ok i ↔ asked.mapPaths (resolvePath base) = i ∧
      ∀ path ∈ i.paths, d.IsReadable path ∨ d.IsUndecodable path := by
  have hlocate : asked.locate d base = (forM (asked.mapPaths (resolvePath base)).paths d.checkFile
      >>= fun _ => .ok (asked.mapPaths (resolvePath base))) := rfl
  rw [hlocate]
  constructor
  · -- a file that the check of the arguments refuses ends the reading of them
    intro hok
    cases hforM : forM (asked.mapPaths (resolvePath base)).paths d.checkFile with
    | error fault =>
      rw [hforM] at hok
      cases hok
    | ok =>
      rw [hforM] at hok
      obtain rfl := Except.ok.inj hok
      exact ⟨rfl, Directory.forM_checkFile_eq_ok_iff.1 hforM⟩
  · rintro ⟨rfl, hfiles⟩
    rw [Directory.forM_checkFile_eq_ok_iff.2 hfiles]
    rfl

/-- What is owed by a run. -/
structure RunsAsAsked (i : Invocation) (width : Nat) (d : Directory) : Prop where
  /-- A command is run exactly if all its paths lead to files, whether or not these hold text. -/
  starts : ∀ (asked : Invocation) base, asked.locate d base = .ok i ↔
    asked.mapPaths (resolvePath base) = i ∧
      ∀ path ∈ i.paths, d.IsReadable path ∨ d.IsUndecodable path
  /-- A check changes no file and prints nothing, whether or not writing is asked for as well. -/
  checks : i.check = true → (i.run width d).directory = d ∧ (i.run width d).output = []
  /-- A check foretells whether the same run in place, which does not fail, rewrites any file. If it
  does not, the directory is left as it is. -/
  foretells : ∀ r, i.resolve d = .ok r → (∀ path ∈ i.inputs, d.IsReadable path) → ∀ inPlace,
    (((i.checking inPlace).run width d).exitCode = 1 ↔ i.writing.Rewrites r.settings width d) ∧
    (((i.checking inPlace).run width d).exitCode ≠ 1 →
      ((i.checking inPlace).run width d).exitCode = 0 ∧ (i.writing.run width d).directory = d) ∧
    (i.writing.run width d).exitCode = 0
  /-- Where files end their lines with line feeds and none is named twice, this can be seen from the
  directory. -/
  compares : ∀ r, i.resolve d = .ok r → i.inputs.Nodup →
    (∀ path ∈ i.inputs, ∃ u, d.find? path = some (.text u) ∧ '\r' ∉ u) → ∀ inPlace,
    (((i.checking inPlace).run width d).exitCode = 1 ↔ (i.writing.run width d).directory ≠ d)
  /-- After a run in place every path leads to what it led to, formatted as often as it was named: a
  text is replaced by its formatted text where this differs from what is read, and all else stays. -/
  writes : i.check = false → i.inPlace = true → ∀ r, i.resolve d = .ok r →
    (∀ path ∈ i.inputs, d.IsReadable path) → ∀ path, (i.run width d).directory.find? path =
      (d.find? path).map (Content.formatted r.settings)^[i.inputs.count path]
  /-- Any other run changes no file and prints the formatted texts. -/
  prints : i.check = false → i.inPlace = false → (i.run width d).directory = d ∧
    ∀ r, i.resolve d = .ok r → (∀ path ∈ i.inputs, d.IsReadable path) →
      (i.run width d).output = i.inputs.flatMap (d.formatted r.settings)
  /-- The first input that does not hold text ends a run. The inputs before it have been handled as if
  they were the only ones, and those behind it do not matter. -/
  stops : ∀ r, i.resolve d = .ok r → ∀ pre path post, i.inputs = pre ++ path :: post →
    (∀ other ∈ pre, d.IsReadable other) → d.IsUndecodable path →
      (i.run width d).exitCode = 1 ∧
        (i.run width d).directory = i.leaves width d pre ∧
        (i.run width d).output = ({ i with inputs := pre }.run width d).output ∧
        i.run width d = { i with inputs := pre ++ [path] }.run width d
  /-- Without settings nothing is done, whatever the inputs are. -/
  rejects : (∀ path ∈ i.config, d.IsReadable path ∨ d.IsUndecodable path) →
    ∀ fault, i.resolve d = .error fault → (i.run width d).exitCode = 1 ∧
      (i.run width d).directory = d ∧ (i.run width d).output = [] ∧
        ∀ inputs, { i with inputs := inputs }.run width d = i.run width d

section Runs

variable {i : Invocation} {width : Nat} {d : Directory} (hshows : i.ShowsInputs width d)
  {r : Resolved} (hr : i.resolve d = .ok r)

include hshows hr

/-- A check fails exactly if some file changes. -/
theorem exitCode_run_checking (hread : ∀ path ∈ i.inputs, d.IsReadable path) (inPlace : Bool) :
    ((i.checking inPlace).run width d).exitCode =
      if i.inputs.any (d.changes r.settings) then 1 else 0 := by
  have hshows' : (i.checking inPlace).ShowsInputs width d := hshows
  obtain ⟨-, -, hexit⟩ := run_of_readable hshows' hr hread
  rw [hexit, effectOn, foldl_handle_of_check rfl, Bool.false_or]
  rfl

/-- A run in place leaves the directory with its inputs formatted in place, one after the other. -/
theorem leaves_writing {inputs : List String} (hinputs : inputs ⊆ i.inputs)
    (hread : ∀ path ∈ inputs, d.IsReadable path) :
    i.writing.leaves width d inputs = inputs.foldl (Directory.format r.settings) d := by
  have hshows' : ({ i.writing with inputs := inputs } : Invocation).ShowsInputs width d :=
    fun s hs path hpath => hshows s hs path (hinputs hpath)
  obtain ⟨hdirectory, -, -⟩ := run_of_readable hshows' hr hread
  rw [leaves, hdirectory, effectOn, foldl_handle_of_inPlace rfl rfl]

theorem directory_run_writing (hread : ∀ path ∈ i.inputs, d.IsReadable path) :
    (i.writing.run width d).directory = i.inputs.foldl (Directory.format r.settings) d :=
  leaves_writing hshows hr (List.Subset.refl _) hread

/-- A run in place rewrites a file exactly if some file changes as it stands at the beginning. -/
theorem rewrites_writing_iff (hread : ∀ path ∈ i.inputs, d.IsReadable path) :
    i.writing.Rewrites r.settings width d ↔ i.inputs.any (d.changes r.settings) = true := by
  -- the inputs of a turn, and of all turns before it, are among all inputs
  have hleaves {inputs : List String} (h : inputs <+: i.inputs) :
      i.writing.leaves width d inputs = inputs.foldl (Directory.format r.settings) d :=
    leaves_writing hshows hr h.subset fun path hpath => hread path (h.subset hpath)
  have hturn {pre : List String} {path : String} (h : pre ++ [path] <+: i.inputs) :
      (∃ t, (i.writing.leaves width d pre).readSource path = .ok t ∧
        reformat Check.run r.settings t ≠ t ∧
        (i.writing.leaves width d (pre ++ [path])).find? path =
          some (.text (reformat Check.run r.settings t))) ↔
      (pre.foldl (Directory.format r.settings) d).changes r.settings path = true := by
    rw [hleaves h, hleaves ((List.prefix_append pre [path]).trans h), List.foldl_append,
      List.foldl_cons, List.foldl_nil, Directory.changes_iff]
  rw [← Directory.exists_changes_iff]
  constructor
  · rintro ⟨pre, path, t, hprefix, hchanges⟩
    exact ⟨pre, path, hprefix, (hturn hprefix).1 ⟨t, hchanges⟩⟩
  · rintro ⟨pre, path, hprefix, hchanges⟩
    obtain ⟨t, ht⟩ := (hturn hprefix).2 hchanges
    exact ⟨pre, path, t, hprefix, ht⟩

/-- A run in place that changes no file leaves the directory as it is. -/
theorem directory_run_writing_of_not_changes (hread : ∀ path ∈ i.inputs, d.IsReadable path)
    (hnone : i.inputs.any (d.changes r.settings) ≠ true) :
    (i.writing.run width d).directory = d := by
  rw [directory_run_writing hshows hr hread]
  refine Directory.foldl_format_of_not_changes fun path hpath => Bool.eq_false_iff.2 fun hchanges => ?_
  exact hnone (List.any_eq_true.2 ⟨path, hpath, hchanges⟩)

/-- A run in place that is told a file once leaves it with another content if the file changes and
holds no carriage return. -/
theorem directory_run_writing_ne_of_changes (hread : ∀ path ∈ i.inputs, d.IsReadable path)
    (hnodup : i.inputs.Nodup) {path : String} (hpath : path ∈ i.inputs)
    (hchanges : d.changes r.settings path = true) {u : List Char}
    (hu : d.find? path = some (.text u)) (hreturn : '\r' ∉ u) :
    (i.writing.run width d).directory ≠ d := by
  intro hsame
  rw [directory_run_writing hshows hr hread] at hsame
  have hafter := Directory.find?_foldl_format r.settings i.inputs d path
  rw [hsame, hnodup.count, if_pos hpath, Function.iterate_one, ← Directory.find?_format_self] at hafter
  obtain ⟨t, ht, hne, hwritten⟩ := Directory.changes_iff.1 hchanges
  obtain ⟨v, hv, rfl⟩ := Directory.readSource_eq_ok_iff.1 ht
  -- what the file held is what was read, and this was replaced
  rw [hv, hwritten] at hafter
  obtain rfl := Content.text.inj (Option.some.inj (hu.symm.trans hv))
  rw [unifyBreaks_of_not_mem hreturn] at hne hafter
  exact hne (Content.text.inj (Option.some.inj hafter)).symm

end Runs

/-- Runs do what they are asked for, in every directory and for all lists of inputs. -/
theorem runsAsAsked {i : Invocation} {width : Nat} {d : Directory} (hshows : i.ShowsInputs width d) :
    i.RunsAsAsked width d where
  starts _ _ := locate_eq_ok_iff
  checks hcheck := by
    -- the run ended before its first file, or it has the effect of some files, and a check has none
    rcases exists_effectOn hshows with hrun | ⟨s, paths, hdirectory, houtput⟩
    · exact hrun
    · rw [hdirectory, houtput, effectOn, foldl_handle_of_check hcheck]
      exact ⟨rfl, rfl⟩
  foretells r hr hread inPlace := by
    -- both sides say that some file changes as it stands at the beginning
    rw [exitCode_run_checking hshows hr hread, rewrites_writing_iff hshows hr hread]
    refine ⟨by simp, fun hexit => ?_, ?_⟩
    · have hnone : i.inputs.any (d.changes r.settings) ≠ true := fun hany => hexit (if_pos hany)
      exact ⟨if_neg hnone, directory_run_writing_of_not_changes hshows hr hread hnone⟩
    · -- a run in place looks for no changes, so it has nothing to fail for
      have hshows' : i.writing.ShowsInputs width d := hshows
      obtain ⟨-, -, hexit⟩ := run_of_readable hshows' hr hread
      rw [hexit, effectOn, foldl_handle_of_inPlace rfl rfl]
      rfl
  compares r hr hnodup hfeeds inPlace := by
    have hread : ∀ path ∈ i.inputs, d.IsReadable path := fun path hpath =>
      Directory.isReadable_iff.2 ((hfeeds path hpath).imp fun _ h => h.1)
    rw [exitCode_run_checking hshows hr hread]
    constructor
    · -- a file that changes is named once, so nothing turns it back
      intro hexit
      have hany : i.inputs.any (d.changes r.settings) = true := by simpa using hexit
      obtain ⟨path, hpath, hchanges⟩ := List.any_eq_true.1 hany
      obtain ⟨u, hu, hreturn⟩ := hfeeds path hpath
      exact directory_run_writing_ne_of_changes hshows hr hread hnodup hpath hchanges hu hreturn
    · intro hne
      by_contra hexit
      exact hne (directory_run_writing_of_not_changes hshows hr hread fun hany => hexit (if_pos hany))
  writes hcheck hplace r hr hread path := by
    -- the fold over the inputs leaves at every path what its turns make of it
    obtain ⟨hdirectory, -, -⟩ := run_of_readable hshows hr hread
    rw [hdirectory, effectOn, foldl_handle_of_inPlace hcheck hplace]
    exact Directory.find?_foldl_format r.settings i.inputs d path
  prints hcheck hplace := by
    refine ⟨?_, fun r hr hread => ?_⟩
    · -- a run that prints writes nothing, however far it comes
      rcases exists_effectOn hshows with ⟨hdirectory, -⟩ | ⟨s, paths, hdirectory, -⟩
      · exact hdirectory
      · rw [hdirectory, effectOn, foldl_handle_of_print hcheck hplace]
    · obtain ⟨-, houtput, -⟩ := run_of_readable hshows hr hread
      rw [houtput, effectOn, foldl_handle_of_print hcheck hplace]
      rfl
  stops r hr pre path post hinputs hpre hpath := by
    have hshowsPre : ({ i with inputs := pre } : Invocation).ShowsInputs width d :=
      fun s hs other hother => hshows s hs other (hinputs ▸ List.mem_append_left _ hother)
    -- the run stops with the effect of the inputs before the file, and with nothing of those behind
    -- it
    obtain ⟨hdirectory, houtput, hexit, hrun⟩ :=
      run_of_unreadable hshows hr hinputs hpre (Directory.not_isReadable_of_isUndecodable hpath)
    -- the run of the inputs before it, which comes to its end, has the same effect
    obtain ⟨hdirectoryPre, houtputPre, -⟩ := run_of_readable hshowsPre hr hpre
    exact ⟨hexit, hdirectory.trans hdirectoryPre.symm, houtput.trans houtputPre.symm, hrun⟩
  rejects _ fault hfault := by
    -- without settings the inputs are not looked at
    have hrun : ∀ inputs, ({ i with inputs := inputs } : Invocation).run width d =
        Stopped.outcome ⟨width, i.verbosity⟩ ⟨⟨d, [], [], false⟩, fault.failures⟩ :=
      fun inputs => run_of_rejected (i := { i with inputs := inputs }) hfault width
    have hself := hrun i.inputs
    refine ⟨?_, ?_, ?_, fun inputs => (hrun inputs).trans hself.symm⟩
    · rw [hself]; rfl
    · rw [hself]; rfl
    · rw [hself]; rfl

/-- Where no detail is asked for, everything can be shown. -/
theorem showsInputs_of_quiet {i : Invocation} (h : i.verbosity = 0) (width : Nat) (d : Directory) :
    i.ShowsInputs width d :=
  fun _ _ _ _ => .inl h

end Invocation

/-- An option that asks for detail stands before the command, and none behind it does. -/
theorem Command.verbosity_of_parse_format {args : List String} {i : Invocation}
    (h : Command.parse ("format" :: args) = .ok (.format i)) : i.verbosity = 0 := by
  -- the subcommand ends the options of the program itself, so none is read in front of it
  have houter : Arguments.read programForms false ("format" :: args) =
      .ok ⟨[], "format" :: args⟩ := by
    rw [Arguments.read]
    rfl
  have hformat : parseFormat ⟨[], "format" :: args⟩ args = .ok (.format i) := by
    rw [parse, houter] at h
    exact h
  unfold parseFormat at hformat
  -- what is read behind it has no option for the verbosity, whichever way its inputs are found
  cases hinner : Arguments.read formatForms true args with
  | error fault => simp [hinner, bind, Except.bind] at hformat
  | ok inner =>
    simp only [hinner, bind, Except.bind] at hformat
    split at hformat
    · cases hformat
    · split at hformat
      · cases hformat
      · cases hformat
        rfl

/-- A directory with a file that is not formatted. -/
def unformattedBook : Directory := [("a.bib", .text "@book\x7ba, title = \x7bA\x7d\x7d".toList)]

/-- Formatting a file in place that is named twice. -/
def Invocation.writeTwice : Invocation where
  verbosity := 0
  config := none
  inputs := ["a.bib", "a.bib"]
  overrides := Setting.all.map fun x => (x.optionName, none)
  inPlace := true
  check := false

theorem Command.parse_writeTwice :
    parse ["format", "--in-place", "a.bib", "a.bib"] = .ok (.format .writeTwice) :=
  rfl

/-- The file holds its formatted text afterwards, which a check of the same file foretells. -/
theorem Invocation.run_writeTwice :
    (writeTwice.run 80 unformattedBook).directory.find? "a.bib" =
        some (.text "@book\x7ba,\n  title = \x7bA\x7d\n\x7d\n".toList) ∧
      ((writeTwice.checking true).run 80 unformattedBook).exitCode = 1 ∧
      ((writeTwice.checking true).run 80 unformattedBook).directory = unformattedBook := by
  have hquiet : writeTwice.verbosity = 0 := Command.verbosity_of_parse_format Command.parse_writeTwice
  have hasked : writeTwice.RunsAsAsked 80 unformattedBook :=
    runsAsAsked (showsInputs_of_quiet hquiet 80 unformattedBook)
  have hchecked : (writeTwice.checking true).RunsAsAsked 80 unformattedBook :=
    runsAsAsked (showsInputs_of_quiet hquiet 80 unformattedBook)
  have hresolve : writeTwice.resolve unformattedBook = .ok ⟨.default, []⟩ := by
    have hoptions : Options.overlay [] writeTwice.overrides = [] := rfl
    simp only [resolve, writeTwice, bind, Except.bind] at hoptions ⊢
    rw [hoptions, Options.resolve_nil]
    rfl
  have hread : ∀ path ∈ writeTwice.inputs, unformattedBook.IsReadable path := by
    intro path hpath
    have hname : path = "a.bib" := by simpa [writeTwice] using hpath
    exact ⟨_, by rw [hname]; rfl⟩
  have hwritten : (writeTwice.run 80 unformattedBook).directory.find? "a.bib" =
      some (.text "@book\x7ba,\n  title = \x7bA\x7d\n\x7d\n".toList) := by
    rw [hasked.writes rfl rfl _ hresolve hread]
    decide +kernel
  refine ⟨hwritten, ?_, (hchecked.checks rfl).1⟩
  -- a check that foretold nothing would leave the file as it is
  by_contra hexit
  have hsame := ((hasked.foretells _ hresolve hread true).2.1 hexit).2
  rw [show writeTwice.writing = writeTwice from rfl] at hsame
  rw [hsame] at hwritten
  revert hwritten
  decide +kernel

end Bibliography
