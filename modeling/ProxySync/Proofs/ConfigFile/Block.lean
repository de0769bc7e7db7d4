import ProxySync.Proofs.ConfigFile.Directive

/-!
# Written sections read back

A section is a header line, its body and an empty line. No line of a body is
blank, whatever the rules hold, so reading takes the body as it was written
and stops where it ends (`readSections_block`); what the lines look like
inside a body opens no section. `Listener.shown` and `Pool.shown` are what
comes back.
-/

namespace ProxySync

open ConfigFile Text

/-! ## What a section shows -/

/-- A text that can stand on a line of its own. -/
@[mk_iff]
structure IsLine (s : String) : Prop where
  noFeed : '\n' ∉ s.toList
  trimmed : Trimmed s.toList

instance (s : String) : Decidable (IsLine s) := decidable_of_iff _ (isLine_iff s).symm

/-- The lines of a listener's rules, trimmed, without the blank ones. -/
def Listener.ruleTexts (l : Listener) : List (List Char) :=
  l.rules.flatMap fun rule => ((lines rule.toList).map trim).filter (!·.isEmpty)

/-- What a listener's section shows: directives among the rules take the
place of the listener's own. -/
def Listener.shown (l : Listener) : Listener where
  name := l.name
  bind := overwritten "bind" l.bind l.ruleTexts
  mode := overwritten "mode" l.mode l.ruleTexts
  defaultBackend := overwritten "default_backend" l.defaultBackend l.ruleTexts
  option := overwritten "option" l.option l.ruleTexts

/-- What a pool's section shows. -/
def Pool.shown (p : Pool) : Pool where
  name := p.name
  mode := p.mode
  balance := p.balance
  members := p.members.map Member.shown

/-- A listener whose name and values can stand in its section; its rules may
be anything. -/
@[mk_iff]
structure Listener.FitsSection (l : Listener) : Prop where
  name_ne : l.name ≠ ""
  name : IsLine l.name
  bind : IsLine l.bind
  mode : IsLine l.mode
  defaultBackend : IsLine l.defaultBackend
  option : IsLine l.option

instance (l : Listener) : Decidable l.FitsSection := decidable_of_iff _ l.fitsSection_iff.symm

/-- A pool whose name, values and members can stand in its section. -/
@[mk_iff]
structure Pool.FitsSection (p : Pool) : Prop where
  name_ne : p.name ≠ ""
  name : IsLine p.name
  mode : IsLine p.mode
  balance : IsLine p.balance
  members : ∀ m ∈ p.members, FitsServerLine m

instance (p : Pool) : Decidable p.FitsSection := decidable_of_iff _ p.fitsSection_iff.symm

namespace ConfigFile

/-! ## Lines of a body -/

/-- The line of a directive without its indentation; none when its value is
empty. -/
def setLine (word value : String) : List (List Char) :=
  if value.isEmpty then [] else [directive word.toList value.toList]

theorem isEmpty_eq_false {s : String} : s.isEmpty = false ↔ s ≠ "" := by
  rw [← Bool.not_eq_true, String.isEmpty_iff]

theorem map_trim_directiveLine {word value : String} (hword : Trimmed word.toList)
    (hne : word.toList ≠ []) (hvalue : IsLine value) :
    (directiveLine word value).map trim = setLine word value := by
  unfold directiveLine setLine
  split
  · rfl
  · next hempty =>
    have hvalue_ne : value.toList ≠ [] :=
      toList_ne_nil (isEmpty_eq_false.mp (Bool.not_eq_true _ ▸ hempty))
    rw [List.map_singleton, List.append_assoc]
    exact congrArg (fun line => [line])
      (trim_indented (by decide) (trimmed_directive hword hne hvalue.trimmed hvalue_ne))

theorem overwritten_setLine_self {word value : String} (hvalue : IsLine value) :
    overwritten word "" (setLine word value) = value := by
  unfold setLine
  split
  · next hempty => exact (String.isEmpty_iff.mp hempty).symm
  · next hempty =>
    have hvalue_ne := toList_ne_nil (isEmpty_eq_false.mp (Bool.not_eq_true _ ▸ hempty))
    rw [overwritten_directive hvalue.trimmed hvalue_ne, String.ofList_toList]

theorem overwritten_setLine_other {word other : String} (hword : word.toList ≠ [])
    (hother : other.toList ≠ []) (hhead : other.toList.head? ≠ word.toList.head?)
    (old value : String) : overwritten word old (setLine other value) = old := by
  unfold setLine
  split
  · rfl
  · refine overwritten_of_ne_some (fun text => ?_) old
    rw [valueAfter?_eq_none hword hother hhead]
    exact nofun

theorem ne_nil_of_mem_setLine {word value : String} {line : List Char}
    (h : line ∈ setLine word value) : line ≠ [] := by
  unfold setLine at h
  split at h
  · cases h
  · rw [List.mem_singleton.mp h, directive]
    simp

/-! ## Bodies -/

def listenerBody (l : Listener) : List (List Char) :=
  setLine "bind" l.bind ++ setLine "mode" l.mode ++ setLine "default_backend" l.defaultBackend ++
    setLine "option" l.option ++ l.ruleTexts

def poolBody (p : Pool) : List (List Char) :=
  setLine "mode" p.mode ++ setLine "balance" p.balance ++
    p.members.map fun m => directive "server".toList (serverValue m)

/-- **Reading a listener's body gives back what it shows.** -/
theorem foldl_listenerBody {l : Listener} (h : l.FitsSection) :
    (listenerBody l).foldl readListenerLine { name := l.name } = l.shown := by
  have hbind : overwritten "bind" "" (listenerBody l) = overwritten "bind" l.bind l.ruleTexts := by
    simp (disch := decide) only [listenerBody, overwritten_append, overwritten_setLine_other,
      overwritten_setLine_self h.bind]
  have hmode : overwritten "mode" "" (listenerBody l) = overwritten "mode" l.mode l.ruleTexts := by
    simp (disch := decide) only [listenerBody, overwritten_append, overwritten_setLine_other,
      overwritten_setLine_self h.mode]
  have hdefault : overwritten "default_backend" "" (listenerBody l) =
      overwritten "default_backend" l.defaultBackend l.ruleTexts := by
    simp (disch := decide) only [listenerBody, overwritten_append, overwritten_setLine_other,
      overwritten_setLine_self h.defaultBackend]
  have hoption : overwritten "option" "" (listenerBody l) =
      overwritten "option" l.option l.ruleTexts := by
    simp (disch := decide) only [listenerBody, overwritten_append, overwritten_setLine_other,
      overwritten_setLine_self h.option]
  rw [foldl_readListenerLine, overwriteListener, hbind, hmode, hdefault, hoption]
  rfl

theorem readPoolLine_mode {value : List Char} (hvalue : Trimmed value) (hne : value ≠ [])
    (p : Pool) : readPoolLine p (directive "mode".toList value) =
      .ok { p with mode := String.ofList value } := by
  rw [readPoolLine, valueAfter?_eq_none (by decide) (by decide) (by decide),
    valueAfter?_directive hvalue hne]

theorem readPoolLine_balance {value : List Char} (hvalue : Trimmed value) (hne : value ≠ [])
    (p : Pool) : readPoolLine p (directive "balance".toList value) =
      .ok { p with balance := String.ofList value } := by
  rw [readPoolLine, valueAfter?_directive hvalue hne]

theorem trimmed_serverValue {m : Member} (h : FitsServerLine m) : Trimmed (serverValue m) := by
  have hsplit : serverValue m = m.name.toList ++
      (' ' :: (m.host.toList ++ ':' :: digits m.port.toNat) ++ [' ']) ++ serverCheck.toList := by
    simp [serverValue]
  rw [hsplit]
  exact (trimmed_of_forall h.name).append (toList_ne_nil h.name_ne)
    (by decide) (by decide) _

theorem readPoolLine_server {m : Member} (h : FitsServerLine m) (p : Pool) :
    readPoolLine p (directive "server".toList (serverValue m)) =
      .ok { p with members := p.members ++ [m.shown] } := by
  rw [readPoolLine, valueAfter?_eq_none (by decide) (by decide) (by decide),
    valueAfter?_eq_none (by decide) (by decide) (by decide),
    valueAfter?_directive (trimmed_serverValue h) (by simp [serverValue])]
  simp only [h.readServer]
  rfl

theorem foldlM_setLine {word value : String} {p q : Pool} (hempty : value = "" → q = p)
    (hline : value ≠ "" → readPoolLine p (directive word.toList value.toList) = .ok q) :
    (setLine word value).foldlM readPoolLine p = .ok q := by
  unfold setLine
  split
  · next h =>
    rw [hempty (String.isEmpty_iff.mp h)]
    rfl
  · next h =>
    rw [List.foldlM_cons, hline (isEmpty_eq_false.mp (Bool.not_eq_true _ ▸ h))]
    rfl

theorem foldlM_servers {ms : List Member} (h : ∀ m ∈ ms, FitsServerLine m) (p : Pool) :
    (ms.map fun m => directive "server".toList (serverValue m)).foldlM readPoolLine p =
      .ok { p with members := p.members ++ ms.map Member.shown } := by
  induction ms generalizing p with
  | nil =>
      rw [List.map_nil, List.map_nil, List.append_nil]
      rfl
  | cons m ms ih =>
      obtain ⟨hm, hms⟩ := List.forall_mem_cons.mp h
      rw [List.map_cons, List.foldlM_cons, readPoolLine_server hm]
      refine (ih hms _).trans ?_
      rw [List.append_assoc]
      rfl

/-- **Reading a pool's body gives back what it shows.** -/
theorem foldlM_poolBody {p : Pool} (h : p.FitsSection) :
    (poolBody p).foldlM readPoolLine { name := p.name } = .ok p.shown := by
  have hmode : (setLine "mode" p.mode).foldlM readPoolLine { name := p.name } =
      .ok { name := p.name, mode := p.mode } := by
    refine foldlM_setLine (fun hempty => by rw [hempty]) fun hne => ?_
    rw [readPoolLine_mode h.mode.trimmed (toList_ne_nil hne), String.ofList_toList]
  have hbalance : (setLine "balance" p.balance).foldlM readPoolLine
      { name := p.name, mode := p.mode } =
      .ok { name := p.name, mode := p.mode, balance := p.balance } := by
    refine foldlM_setLine (fun hempty => by rw [hempty]) fun hne => ?_
    rw [readPoolLine_balance h.balance.trimmed (toList_ne_nil hne), String.ofList_toList]
  rw [poolBody, List.foldlM_append, List.foldlM_append, hmode]
  change List.foldlM readPoolLine _ (setLine "balance" p.balance) >>= _ = _
  rw [hbalance]
  exact foldlM_servers h.members _

/-! ## Blocks -/

theorem trim_headerLine {name : String} (hname : IsLine name) (hne : name ≠ "") (k : Kind) :
    trim (headerLine k name) = directive k.noun.toList name.toList := by
  have hnoun : Trimmed k.noun.toList ∧ k.noun.toList ≠ [] := by
    cases k <;> decide
  rw [headerLine, List.append_assoc]
  exact trim_indented (by decide)
    (trimmed_directive hnoun.1 hnoun.2 hname.trimmed (toList_ne_nil hne))

theorem map_trim_ruleLines (rule : String) :
    (ruleLines rule).map trim = ((lines rule.toList).map trim).filter (!·.isEmpty) := by
  rw [ruleLines, List.map_map]
  refine (List.map_congr_left fun line hline => ?_).trans (List.map_id _)
  obtain ⟨line, -, rfl⟩ := List.mem_map.mp (List.mem_filter.mp hline).1
  exact trim_indented (by decide) (trimmed_trim line)

theorem map_trim_rules (l : Listener) : (l.rules.flatMap ruleLines).map trim = l.ruleTexts := by
  rw [List.map_flatMap]
  exact List.flatMap_congr fun rule _ => map_trim_ruleLines rule

theorem map_trim_listenerBlock {l : Listener} (h : l.FitsSection) :
    (listenerBlock l).map trim =
      directive Kind.frontend.noun.toList l.name.toList :: listenerBody l ++ [[]] := by
  simp only [listenerBlock, listenerBody, List.map_append, List.map_singleton, map_trim_rules,
    trim_headerLine h.name h.name_ne,
    map_trim_directiveLine (by decide) (by decide : "bind".toList ≠ []) h.bind,
    map_trim_directiveLine (by decide) (by decide : "mode".toList ≠ []) h.mode,
    map_trim_directiveLine (by decide) (by decide : "default_backend".toList ≠ [])
      h.defaultBackend,
    map_trim_directiveLine (by decide) (by decide : "option".toList ≠ []) h.option]
  simp [trim_of_trimmed trimmed_nil]

theorem serverLine_eq_directive (m : Member) :
    serverLine m = "    ".toList ++ directive "server".toList (serverValue m) := by
  have hlead : "    server ".toList = "    ".toList ++ ("server".toList ++ [' ']) := by decide
  have hsplit : serverLine m = "    server ".toList ++ serverValue m := by
    unfold serverLine serverValue
    generalize "    server ".toList = lead
    simp only [List.append_assoc, List.cons_append]
  rw [hsplit, hlead, directive, List.append_assoc, List.append_assoc]
  rfl

theorem trim_serverLine (m : Member) :
    trim (serverLine m) = directive "server".toList (serverValue m) := by
  have hsplit : directive "server".toList (serverValue m) = "server".toList ++
      (' ' :: m.name.toList ++ ' ' :: (m.host.toList ++ ':' :: digits m.port.toNat) ++ [' ']) ++
        serverCheck.toList := by
    simp [directive, serverValue]
  have htrimmed : Trimmed (directive "server".toList (serverValue m)) := by
    rw [hsplit]
    exact Trimmed.append (by decide) (by decide) (by decide) (by decide) _
  rw [serverLine_eq_directive]
  exact trim_indented (by decide) htrimmed

theorem map_trim_poolBlock {p : Pool} (h : p.FitsSection) :
    (poolBlock p).map trim =
      directive Kind.backend.noun.toList p.name.toList :: poolBody p ++ [[]] := by
  have hservers : (p.members.map serverLine).map trim =
      p.members.map fun m => directive "server".toList (serverValue m) := by
    rw [List.map_map]
    exact List.map_congr_left fun m _ => trim_serverLine m
  simp only [poolBlock, poolBody, List.map_append, List.map_singleton, hservers,
    trim_headerLine h.name h.name_ne,
    map_trim_directiveLine (by decide) (by decide : "mode".toList ≠ []) h.mode,
    map_trim_directiveLine (by decide) (by decide : "balance".toList ≠ []) h.balance]
  simp [trim_of_trimmed trimmed_nil]

theorem ne_nil_of_mem_listenerBody {l : Listener} : ∀ line ∈ listenerBody l, line ≠ [] := by
  intro line hline
  simp only [listenerBody, List.mem_append] at hline
  rcases hline with (((hline | hline) | hline) | hline) | hline
  · exact ne_nil_of_mem_setLine hline
  · exact ne_nil_of_mem_setLine hline
  · exact ne_nil_of_mem_setLine hline
  · exact ne_nil_of_mem_setLine hline
  · obtain ⟨rule, -, hline⟩ := List.mem_flatMap.mp hline
    simpa using (List.mem_filter.mp hline).2

theorem ne_nil_of_mem_poolBody {p : Pool} : ∀ line ∈ poolBody p, line ≠ [] := by
  intro line hline
  simp only [poolBody, List.mem_append] at hline
  rcases hline with (hline | hline) | hline
  · exact ne_nil_of_mem_setLine hline
  · exact ne_nil_of_mem_setLine hline
  · obtain ⟨m, -, rfl⟩ := List.mem_map.mp hline
    simp [directive]

/-! ## Sections -/

theorem readSections_of_no_header {line : List Char} (h : header? line = none)
    (rest : List (List Char)) : readSections (line :: rest) = readSections rest := by
  rw [readSections, h]

/-- A header, a body without blank lines and an empty line are one section,
whatever the lines of the body look like. -/
theorem readSections_block {header : List Char} {k : Kind} {name : List Char}
    (hheader : header? header = some (k, name)) {body : List (List Char)}
    (hbody : ∀ line ∈ body, line ≠ []) (rest : List (List Char)) :
    readSections (header :: body ++ [[]] ++ rest) =
      readSection k name body >>= fun s => (readSections rest).map (s :: ·) := by
  have hfull : ∀ line ∈ body, (!line.isEmpty) = true := fun line hline => by
    simpa using hbody line hline
  have htake : (body ++ [] :: rest).takeWhile (!·.isEmpty) = body := by
    rw [List.takeWhile_append_of_pos hfull, List.takeWhile_cons_of_neg (by simp), List.append_nil]
  have hdrop : (body ++ [] :: rest).dropWhile (!·.isEmpty) = [] :: rest := by
    rw [List.dropWhile_append_of_pos hfull, List.dropWhile_cons_of_neg (by simp)]
  rw [List.append_assoc, List.cons_append, List.singleton_append, readSections, hheader]
  simp only [htake, hdrop]
  rw [readSections_of_no_header (by decide)]
  rfl

end ConfigFile

end ProxySync
