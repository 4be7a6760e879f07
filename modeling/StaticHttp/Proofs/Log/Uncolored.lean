import Mathlib.Data.List.Forall2
import StaticHttp.Proofs.Files.Refusals
import StaticHttp.Proofs.Log.Delivery

/-!
# Colours off a terminal

Off a terminal colours leave no trace.  Two loggers that are asked for the same, one with colours
whenever it likes and one never, stay a pair: they have the same level and the same files, and the
same has appeared on their consoles.  That holds step by step for whatever is without escapes and
marks, the failure to open a log file included.

    s.Pales u → s.step c = .ok t → ∃ v, u.step c.uncolored = .ok v ∧ t.Pales v        (pales_step)
    without colours the same steps lead to the same text                          (shown_uncolored)
-/

namespace StaticHttp.Log

/-- The settings with colours turned off. -/
def Settings.uncolored (settings : Settings) : Settings := { settings with colored := .bool false }

namespace Logger

/-- A step with colours turned off. -/
def Step.uncolored : Step → Step
  | .setUp settings second => .setUp settings.uncolored second
  | .handle r => .handle r

/-- The texts of a step are without ESC and without marks: those of a record, and the name of a log
file. -/
def Step.Unmarked : Step → Prop
  | .setUp settings _ => Console.Unmarked settings.file.display
  | .handle r => r.Unmarked

/-- A handler beside one that has no colours: a console of any kind beside a console, or the same
log file.  Who colours does so through a wrapper. -/
inductive Beside : Handler → Handler → Prop
  | console {n : Nat} {c d : ConsoleHandler} : (c.colored = true → 0 < c.wrappers) →
      d.colored = false → Beside ⟨n, .console c⟩ ⟨n, .console d⟩
  | file {n : Nat} {f : File} : Beside ⟨n, .file f⟩ ⟨n, .file f⟩

/-- Off a terminal, two loggers that differ in their colours at most, and the second has none. -/
structure Pales (s u : Logger) : Prop where
  terminal : s.terminal = false
  terminal' : u.terminal = false
  level : u.level = s.level
  handlers : List.Forall₂ Beside s.handlers u.handlers
  made : u.made = s.made
  shown : u.shown = s.shown
  tree : u.tree = s.tree

variable {s t u v : Logger}

/-! ## Records -/

theorem noEscape_newline {t : Text} (h : Console.escape ∉ t) :
    Console.escape ∉ t ++ ("\n" : Text) := by
  rw [List.mem_append, not_or]
  exact ⟨h, by decide⟩

/-- Off a terminal a line without marks appears as it is, whatever its handler does. -/
theorem write_shown {c : ConsoleHandler} (hc : c.colored = true → 0 < c.wrappers) (level : Int)
    {line : Text} (h : Console.Unmarked line) :
    Console.write false c.wrappers (ConsoleHandler.shown c level line ++ "\n") =
      line ++ ("\n" : Text) := by
  unfold ConsoleHandler.shown
  by_cases hcolored : c.colored = true
  · obtain ⟨n, hn⟩ := Nat.exists_eq_succ_of_ne_zero (Nat.ne_of_gt (hc hcolored))
    rw [if_pos hcolored, hn]
    exact Console.write_colored n level h
  · rw [if_neg hcolored]
    exact Console.write_plain _ (noEscape_newline h.noEscape)

/-- Whatever console handlers print of a record without marks, they print the same without
colours. -/
theorem prints_beside {c d : ConsoleHandler} (hc : c.colored = true → 0 < c.wrappers)
    (hd : d.colored = false) {r : Record} (hr : r.Unmarked) :
    d.prints false r = c.prints false r := by
  unfold ConsoleHandler.prints
  cases hline : r.line with
  | error f => rfl
  | ok line =>
    have hplain : d.colored = true → 0 < d.wrappers := by simp [hd]
    simp only [write_shown hc r.level (hr.line hline), write_shown hplain r.level (hr.line hline)]

/-- Two loggers that print a text without escapes stay a pair, through whatever wrappers they print
it. -/
theorem pales_print (h : s.Pales u) (n m : Nat) {text : Text} (htext : Console.escape ∉ text) :
    (s.print n text).Pales (u.print m text) := by
  have hshown : u.shown ++ Console.write u.terminal m text =
      s.shown ++ Console.write s.terminal n text := by
    rw [h.terminal, h.terminal', Console.write_plain n htext, Console.write_plain m htext, h.shown]
  exact { h with shown := hshown }

/-- Handlers beside one another stay so, and the loggers a pair, when they write a record one after
the other. -/
theorem pales_emitAll {hs hs' : List Handler} (hbeside : List.Forall₂ Beside hs hs')
    (h : s.Pales u) {r : Record} (hr : r.Unmarked) :
    List.Forall₂ Beside (emitAll r hs s).1 (emitAll r hs' u).1 ∧
      (emitAll r hs s).2.Pales (emitAll r hs' u).2 := by
  induction hbeside generalizing s u with
  | nil => exact ⟨.nil, h⟩
  | @cons x y hs hs' hxy _ ih =>
    simp only [emitAll]
    cases hxy with
    | @console n c d hc hd =>
      have hshown : u.shown ++ d.prints u.terminal r = s.shown ++ c.prints s.terminal r := by
        rw [h.terminal, h.terminal', h.shown, prints_beside hc hd hr]
      have hnext : Pales { s with shown := s.shown ++ c.prints s.terminal r }
          { u with shown := u.shown ++ d.prints u.terminal r } := { h with shown := hshown }
      rw [emit_console (x := ⟨n, .console c⟩) rfl, emit_console (x := ⟨n, .console d⟩) rfl]
      obtain ⟨hrest, hpales⟩ := ih hnext
      exact ⟨.cons (.console hc hd) hrest, hpales⟩
    | @file n f =>
      have hnext : Pales { s with tree := (f.logs s.tree r).2 }
          { u with tree := (f.logs s.tree r).2 } := { h with tree := rfl }
      rw [emit_file (x := ⟨n, .file f⟩) rfl, emit_file (x := ⟨n, .file f⟩) rfl, h.tree]
      obtain ⟨hrest, hpales⟩ := ih hnext
      exact ⟨.cons .file hrest, hpales⟩

theorem isEmpty_beside {hs hs' : List Handler} (h : List.Forall₂ Beside hs hs') :
    hs'.isEmpty = hs.isEmpty := by
  cases h <;> rfl

theorem pales_handle (h : s.Pales u) {r : Record} (hr : r.Unmarked) :
    (s.handle r).Pales (u.handle r) := by
  have hempty := isEmpty_beside h.handlers
  have henabled : u.isEnabled r.level = s.isEnabled r.level := by rw [isEnabled, h.level, isEnabled]
  unfold handle
  rw [henabled, hempty]
  split
  · split
    · -- without handlers it is the bare message that appears, through all wrappers
      split
      · exact pales_print h _ _ (noEscape_newline hr.message.noEscape)
      · exact h
    · obtain ⟨hhandlers, hpales⟩ := pales_emitAll h.handlers h hr
      exact { hpales with handlers := hhandlers }
  · exact h

/-! ## Setting up -/

/-- What is said about a log file that the operating system refuses has no marks, if its name has
none. -/
theorem unmarked_refusal {file maxSize backups : Value} {tree : Tree} {f : Failure}
    (hname : Console.Unmarked file.display)
    (h : File.openAt file maxSize backups tree = .error f) (hf : f.isSystem = true) (second : Int) :
    (refusal file f second).Unmarked := by
  have hmessage : f.message.Legible := by
    unfold File.openAt at h
    split at h
    · next hpath =>
      cases h
      unfold File.pathFrom at hpath
      split at hpath
      · cases hpath
        cases hf
      · cases hpath
      · cases hpath
        cases hf
    · split at h
      · cases h
      · next hopen =>
        cases h
        exact Tree.legible_openAppend hopen
  have hfront : Console.Unmarked ("Error setting up log file " : Text) :=
    Console.unmarked_of_legible (by decide)
  have hcolon : Console.Unmarked (": " : Text) := Console.unmarked_of_legible (by decide)
  have hroot : Console.Unmarked ("root" : Text) := Console.unmarked_of_legible (by decide)
  refine ⟨hroot, ?_⟩
  simp only [refusal, Console.unmarked_append_iff]
  exact ⟨⟨⟨hfront, hname⟩, hcolon⟩, Console.unmarked_of_legible hmessage⟩

theorem pales_withConsole (h : s.Pales u) (level : Int) (colored : Bool) :
    (s.withConsole level colored).Pales (u.withConsole level false) := by
  have hwrapped : colored = true → 0 < if colored then s.wrappers + 1 else s.wrappers := by
    intro hcolored
    rw [if_pos hcolored]
    omega
  rw [withConsole_eq, withConsole_eq, h.made]
  exact ⟨h.terminal, h.terminal', rfl, .cons (.console hwrapped rfl) .nil, rfl, h.shown, h.tree⟩

theorem any_beside {hs hs' : List Handler} (h : List.Forall₂ Beside hs hs') (n : Nat) :
    (hs'.any fun x => x.number = n) = hs.any fun x => x.number = n := by
  induction h with
  | nil => rfl
  | cons hxy _ ih =>
    rw [List.any_cons, List.any_cons, ih]
    cases hxy <;> rfl

/-- Both get the same log file, or neither. -/
theorem pales_attach (h : s.Pales u) (f : File) (tree : Tree) :
    ({ s with tree }.attach (.file f)).Pales ({ u with tree }.attach (.file f)) := by
  have hany := any_beside h.handlers s.made
  unfold attach addHandler
  simp only [h.made, hany]
  split
  · exact ⟨h.terminal, h.terminal', h.level, h.handlers, rfl, h.shown, rfl⟩
  · have hhandlers := List.rel_append h.handlers
      (List.Forall₂.cons (.file (n := s.made) (f := f)) .nil)
    exact ⟨h.terminal, h.terminal', h.level, hhandlers, rfl, h.shown, rfl⟩

theorem pales_equips (h : s.Pales u) {settings : Settings} {second : Int}
    (hname : Console.Unmarked settings.file.display) (hequips : s.Equips settings second t) :
    ∃ v, u.Equips settings.uncolored second v ∧ t.Pales v := by
  have hopening : File.openAt settings.uncolored.file settings.uncolored.maxSize
      settings.uncolored.backups u.tree =
      File.openAt settings.file settings.maxSize settings.backups s.tree := by
    rw [h.tree]
    rfl
  cases hequips with
  | bare hfile => exact ⟨u, .bare hfile, h⟩
  | opened hfile hopen =>
    exact ⟨_, .opened hfile (hopening.trans hopen), pales_attach h _ _⟩
  | refused hfile hopen hf =>
    exact ⟨_, .refused hfile (hopening.trans hopen) hf,
      pales_handle h (unmarked_refusal hname hopen hf second)⟩

theorem pales_setUp (h : s.Pales u) {settings : Settings} {second : Int}
    (hname : Console.Unmarked settings.file.display)
    (hstep : s.step (.setUp settings second) = .ok t) :
    ∃ v, u.step (.setUp settings.uncolored second) = .ok v ∧ t.Pales v := by
  obtain ⟨level, hlevel, hequips⟩ := step_setUp_equips_iff.1 hstep
  have hconsole := pales_withConsole h level settings.colored.isTruthy
  obtain ⟨v, hequips', hpales⟩ := pales_equips hconsole hname hequips
  exact ⟨v, step_setUp_equips_iff.2 ⟨level, hlevel, hequips'⟩, hpales⟩

/-! ## Many steps -/

/-- A step without marks keeps two loggers a pair, when one of them takes it without colours. -/
theorem pales_step (h : s.Pales u) {c : Step} (hc : c.Unmarked) (hstep : s.step c = .ok t) :
    ∃ v, u.step c.uncolored = .ok v ∧ t.Pales v := by
  cases c with
  | setUp settings second => exact pales_setUp h hc hstep
  | handle r =>
    obtain rfl := Except.ok.inj hstep
    exact ⟨_, rfl, pales_handle h hc⟩

theorem pales_after (h : s.Pales u) {steps : List Step} (hsteps : ∀ c ∈ steps, c.Unmarked)
    (hafter : s.after steps = .ok t) :
    ∃ v, u.after (steps.map Step.uncolored) = .ok v ∧ t.Pales v := by
  induction steps generalizing s u with
  | nil =>
    obtain rfl := Except.ok.inj hafter
    exact ⟨u, rfl, h⟩
  | cons c steps ih =>
    obtain ⟨hc, hsteps⟩ := List.forall_mem_cons.1 hsteps
    obtain ⟨s', hstep, hrest⟩ := after_cons_iff.1 hafter
    obtain ⟨u', hstep', hpales⟩ := pales_step h hc hstep
    obtain ⟨v, hv, hpales'⟩ := ih hpales hsteps hrest
    exact ⟨v, after_cons_iff.2 ⟨u', hstep', hv⟩, hpales'⟩

theorem pales_initial (tree : Tree) : (initial false tree).Pales (initial false tree) :=
  ⟨rfl, rfl, rfl, .nil, rfl, rfl, rfl⟩

/-- **Off a terminal colours leave no trace**: whatever records are handled, and however often and
in which colours the logger is set up in between, the same text appears as when colours are never
turned on, and the files are the same. -/
theorem shown_uncolored {tree : Tree} {steps : List Step} (hsteps : ∀ c ∈ steps, c.Unmarked)
    (h : (initial false tree).after steps = .ok t) :
    ∃ u, (initial false tree).after (steps.map Step.uncolored) = .ok u ∧
      u.shown = t.shown ∧ u.tree = t.tree := by
  obtain ⟨u, hu, hpales⟩ := pales_after (pales_initial tree) hsteps h
  exact ⟨u, hu, hpales.shown, hpales.tree⟩

/-- A record of the server at a level without a name. -/
def notice : Record := ⟨⟨"WebServer", 35, "hello"⟩, 0⟩

/-- A record before anything is set up, then colours, none, and colours twice. -/
def changing : List Step :=
  [.handle notice, .setUp .standard 0, .handle notice, .setUp plain 1, .handle notice,
    .setUp .standard 2, .setUp .standard 3, .handle notice]

theorem shown_uncolored_changing :
    ∃ t u, (initial false bareTree).after changing = .ok t ∧
      (initial false bareTree).after (changing.map Step.uncolored) = .ok u ∧ u.shown = t.shown := by
  have hnotice : notice.Unmarked :=
    ⟨Console.unmarked_of_legible (by decide), Console.unmarked_of_legible (by decide)⟩
  have hnull : Console.Unmarked Value.null.display := Console.unmarked_of_legible (by decide)
  have hsteps : ∀ c ∈ changing, c.Unmarked := by
    simp only [changing, List.forall_mem_cons, List.not_mem_nil, false_implies, implies_true,
      and_true]
    exact ⟨hnotice, hnull, hnotice, hnull, hnotice, hnull, hnull, hnotice⟩
  obtain ⟨t, ht⟩ := exists_of_isOk (x := (initial false bareTree).after changing) (by decide +kernel)
  obtain ⟨u, hu, hshown, _⟩ := shown_uncolored hsteps ht
  exact ⟨t, u, ht, hu, hshown⟩

end Logger

end StaticHttp.Log
