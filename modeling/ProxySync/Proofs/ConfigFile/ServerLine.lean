import ProxySync.Proofs.ConfigFile.Stanza
import ProxySync.Proofs.Text.Digits

/-!
# What a file must be like to be read

The only lines that can be at fault are the server lines of backend sections.
`IsServer` says what such a line must look like, and the reader agrees
(`readServer_eq_ok_iff`). A file is refused just when one of its stanzas has a
server line of another shape (`exists_read_iff`), in the name of the first
such stanza (`first_of_read_eq_error`), and otherwise each stanza becomes an
entity (`entities_of_read`).
-/

namespace ProxySync

open ConfigFile Text

namespace ConfigFile

/-! ## Server lines -/

/-- The value of a server line has five words. The first is a name; the second
ends in a port behind its last colon, and what stands before is a host. -/
def IsServer (value name host : List Char) (port : Nat) : Prop :=
  ∃ address check₁ check₂ check₃ numeral,
    fields value = [name, address, check₁, check₂, check₃] ∧
      address = host ++ ':' :: numeral ∧ ':' ∉ numeral ∧ IsNumeral numeral port ∧ port ≤ 65535

def IsServerLine (value : List Char) : Prop := ∃ name host port, IsServer value name host port

end ConfigFile

/-- A server line with this value shows the member, and all of it. -/
def Member.StandsOn (m : Member) (value : List Char) : Prop :=
  IsServer value m.name.toList m.host.toList m.port.toNat ∧ m.shown = m

namespace ConfigFile

theorem readServer_eq_ok_iff {value : List Char} {m : Member} :
    readServer value = .ok m ↔ m.StandsOn value := by
  constructor
  · intro h
    have hshown : m.shown = m := (fitsServerLine_of_readServer h).2
    unfold readServer at h
    split at h
    case h_2 => cases h
    next name address check₁ check₂ check₃ hfields =>
    split at h
    · cases h
    next host numeral hcut =>
    split at h
    case h_2 => cases h
    next n hport =>
    obtain ⟨haddress, hcolon⟩ := cutLast?_eq_some_iff.mp hcut
    obtain ⟨hnumeral, hle⟩ := readNumeral_eq_ok_iff.mp hport
    cases h
    have hn : n.toUInt16.toNat = n := by
      rw [Nat.toUInt16, UInt16.toNat_ofNat']
      omega
    refine ⟨⟨address, check₁, check₂, check₃, numeral, ?_, ?_, hcolon, ?_, ?_⟩, hshown⟩
    · rw [hfields, String.toList_ofList]
    · rw [haddress, String.toList_ofList]
    · rw [hn]
      exact hnumeral
    · rw [hn]
      exact hle
  · rintro ⟨⟨address, check₁, check₂, check₃, numeral, hfields, rfl, hcolon, hnumeral, hle⟩, hshown⟩
    have hport : readNumeral 65535 numeral = .ok m.port.toNat :=
      readNumeral_eq_ok_iff.mpr ⟨hnumeral, hle⟩
    rw [readServer, hfields]
    simp only [cutLast?_append hcolon, hport]
    rw [← hshown]
    simp [Member.shown]

theorem exists_readServer_iff {value : List Char} :
    (∃ m, readServer value = .ok m) ↔ IsServerLine value := by
  simp only [readServer_eq_ok_iff]
  constructor
  · rintro ⟨m, hm, -⟩
    exact ⟨_, _, _, hm⟩
  · rintro ⟨name, host, port, hserver⟩
    have hport : port.toUInt16.toNat = port := by
      obtain ⟨-, -, -, -, -, -, -, -, -, hle⟩ := hserver
      rw [Nat.toUInt16, UInt16.toNat_ofNat']
      omega
    refine ⟨{ name := String.ofList name, host := String.ofList host, port := port.toUInt16 }, ?_, rfl⟩
    simpa only [String.toList_ofList, hport] using hserver

/-! ## Stanzas -/

namespace Stanza

/-- A backend section with a server line that shows no member. -/
def Malformed (s : Stanza) : Prop :=
  s.kind = .backend ∧ ∃ value ∈ settings "server" s.body, ¬ IsServerLine value

/-- The pool of a backend section: its members are those of the server lines,
in order. -/
def Gives (s : Stanza) (p : Pool) : Prop :=
  p = s.pool p.members ∧
    List.Forall₂ (fun value m => Member.StandsOn m value) (settings "server" s.body) p.members

theorem read_of_frontend {s : Stanza} (h : s.kind = .frontend) :
    s.read = .ok (.listener s.listener) := by
  rw [read, h]

theorem read_of_backend {s : Stanza} (h : s.kind = .backend) :
    s.read = (((settings "server" s.body).mapM readServer).map (.pool <| s.pool ·)).mapError
      (⟨String.ofList s.name, ·⟩) := by
  rw [read, h]

/-- A section can be read when it is not malformed. -/
theorem exists_read_iff {s : Stanza} : (∃ e, s.read = .ok e) ↔ ¬ s.Malformed := by
  cases hkind : s.kind with
  | frontend =>
      have hback : ¬ s.Malformed := fun h => by
        rw [Malformed, hkind] at h
        cases h.1
      exact iff_of_true ⟨_, read_of_frontend hkind⟩ hback
  | backend =>
      have hservers : ¬ s.Malformed ↔ ∃ ms, (settings "server" s.body).mapM readServer = .ok ms := by
        rw [exists_mapM_eq_ok_iff, Malformed]
        simp [hkind, exists_readServer_iff]
      rw [hservers, read_of_backend hkind]
      cases (settings "server" s.body).mapM readServer with
      | error reason => exact ⟨nofun, nofun⟩
      | ok ms => exact iff_of_true ⟨_, rfl⟩ ⟨_, rfl⟩

/-- A fault is one of a backend section, in its name. -/
theorem backend_of_read {s : Stanza} {e : FormatFault} (h : s.read = .error e) :
    e.backend = String.ofList s.name := by
  cases hkind : s.kind with
  | frontend =>
      rw [read_of_frontend hkind] at h
      cases h
  | backend =>
      rw [read_of_backend hkind] at h
      cases hservers : (settings "server" s.body).mapM readServer with
      | error reason =>
          rw [hservers] at h
          cases h
          rfl
      | ok ms =>
          rw [hservers] at h
          cases h

/-- What a section can become. -/
theorem read_cases {s : Stanza} {e : Section} (h : s.read = .ok e) :
    (s.kind = .frontend ∧ e = .listener s.listener) ∨
      ∃ p, s.kind = .backend ∧ e = .pool p ∧ s.Gives p := by
  cases hkind : s.kind with
  | frontend =>
      rw [read_of_frontend hkind] at h
      exact Or.inl ⟨rfl, (Except.ok.inj h).symm⟩
  | backend =>
      rw [read_of_backend hkind] at h
      cases hservers : (settings "server" s.body).mapM readServer with
      | error reason =>
          rw [hservers] at h
          cases h
      | ok ms =>
          rw [hservers] at h
          cases h
          refine Or.inr ⟨_, rfl, rfl, rfl, ?_⟩
          exact (mapM_eq_ok_iff.mp hservers).imp fun _ _ => readServer_eq_ok_iff.mp

end Stanza

/-! ## Files -/

/-- The sections of one kind. -/
def ofKind (k : Kind) (ss : List Stanza) : List Stanza := ss.filter (·.kind = k)

/-- **A file reads when none of its sections is malformed.** -/
theorem exists_read_iff {text : String} :
    (∃ r, read text = .ok r) ↔ ∀ s ∈ stanzas text, ¬ s.Malformed := by
  have hread : (∃ r, read text = .ok r) ↔
      ∃ sections, (stanzas text).mapM Stanza.read = .ok sections := by
    rw [Prod.exists]
    simp only [read_eq_ok_iff, readSections_lines]
    exact ⟨fun ⟨_, _, sections, h, _⟩ => ⟨sections, h⟩,
      fun ⟨sections, h⟩ => ⟨_, _, sections, h, rfl, rfl⟩⟩
  rw [hread, exists_mapM_eq_ok_iff]
  exact forall₂_congr fun _ _ => Stanza.exists_read_iff

/-- The fault of a file is that of its first malformed section. -/
theorem first_of_read_eq_error {text : String} {e : FormatFault} (h : read text = .error e) :
    ∃ before s after, stanzas text = before ++ s :: after ∧ (∀ t ∈ before, ¬ t.Malformed) ∧
      s.Malformed ∧ e.backend = String.ofList s.name := by
  rw [read_eq_error_iff, readSections_lines] at h
  obtain ⟨before, s, after, hstanzas, hbefore, hs⟩ := mapM_eq_error_iff.mp h
  refine ⟨before, s, after, hstanzas, fun t ht => Stanza.exists_read_iff.mp (hbefore t ht), ?_,
    Stanza.backend_of_read hs⟩
  by_contra hfine
  obtain ⟨e', he'⟩ := Stanza.exists_read_iff.mpr hfine
  rw [hs] at he'
  cases he'

theorem entities_of_forall₂ {ss : List Stanza} {es : List Section}
    (h : List.Forall₂ (fun s e => Stanza.read s = .ok e) ss es) :
    listenersOf es = (ofKind .frontend ss).map Stanza.listener ∧
      List.Forall₂ Stanza.Gives (ofKind .backend ss) (poolsOf es) := by
  induction h with
  | nil => exact ⟨rfl, List.Forall₂.nil⟩
  | @cons s e ss es hs _ ih =>
      obtain ⟨hls, hps⟩ := ih
      rcases Stanza.read_cases hs with ⟨hkind, rfl⟩ | ⟨p, hkind, rfl, hp⟩
      · have hfront : ofKind .frontend (s :: ss) = s :: ofKind .frontend ss :=
          List.filter_cons_of_pos (by simp [hkind])
        have hback : ofKind .backend (s :: ss) = ofKind .backend ss :=
          List.filter_cons_of_neg (by simp [hkind])
        rw [hfront, hback]
        exact ⟨congrArg (s.listener :: ·) hls, hps⟩
      · have hfront : ofKind .frontend (s :: ss) = ofKind .frontend ss :=
          List.filter_cons_of_neg (by simp [hkind])
        have hback : ofKind .backend (s :: ss) = s :: ofKind .backend ss :=
          List.filter_cons_of_pos (by simp [hkind])
        rw [hfront, hback]
        exact ⟨hls, List.Forall₂.cons hp hps⟩

/-- The entities of a file are those of its sections. -/
theorem entities_of_read {text : String} {ls : List Listener} {ps : List Pool}
    (h : read text = .ok (ls, ps)) :
    ls = (ofKind .frontend (stanzas text)).map Stanza.listener ∧
      List.Forall₂ Stanza.Gives (ofKind .backend (stanzas text)) ps := by
  obtain ⟨sections, hread, rfl, rfl⟩ := read_eq_ok_iff.mp h
  rw [readSections_lines] at hread
  exact entities_of_forall₂ (mapM_eq_ok_iff.mp hread)

/-- **Which files are refused, in whose name, and what the others say.** -/
theorem read_outcome (text : String) :
    ((∃ e, read text = .error e) ↔ ∃ s ∈ stanzas text, s.Malformed) ∧
      (∀ e, read text = .error e →
        ∃ before s after, stanzas text = before ++ s :: after ∧ (∀ t ∈ before, ¬ t.Malformed) ∧
          s.Malformed ∧ e.backend = String.ofList s.name) ∧
      ∀ ls ps, read text = .ok (ls, ps) →
        ls = (ofKind .frontend (stanzas text)).map Stanza.listener ∧
          List.Forall₂ Stanza.Gives (ofKind .backend (stanzas text)) ps := by
  have hrefused : (∃ e, read text = .error e) ↔ ¬ ∃ r, read text = .ok r := by
    cases read text with
    | error e => exact iff_of_true ⟨e, rfl⟩ nofun
    | ok r => exact iff_of_false nofun (not_not_intro ⟨r, rfl⟩)
  refine ⟨?_, fun _ => first_of_read_eq_error, fun _ _ => entities_of_read⟩
  rw [hrefused, exists_read_iff]
  simp only [not_forall, not_not, exists_prop]

/-- A port behind a plus sign, a host with colons in it and a value given
twice; below it, a port out of range. -/
theorem read_outcome_edges :
    let good := "backend app\n mode http\n server a ::1:+080 check inter 2000\n mode tcp"
    let bad := good ++ "\n\nbackend db\n server b h:65536 check inter 2000"
    let m : Member := { name := "a", host := "::1", port := 80 }
    let p : Pool := { name := "app", mode := "tcp", members := [m] }
    (read good = .ok ([], [p]) ∧
        List.Forall₂ Stanza.Gives (ofKind .backend (stanzas good)) [p]) ∧
      ∃ e, read bad = .error e ∧ (∃ s ∈ stanzas bad, s.Malformed) ∧ e.backend = "db" := by
  intro good bad m p
  have hgood : read good = .ok ([], [p]) := by decide +kernel
  have hbad : read bad = .error ⟨"db", .badPort "65536" .tooLarge⟩ := by decide +kernel
  exact ⟨⟨hgood, ((read_outcome good).2.2 _ _ hgood).2⟩,
    ⟨_, hbad, (read_outcome bad).1.mp ⟨_, hbad⟩, rfl⟩⟩

end ConfigFile

end ProxySync
