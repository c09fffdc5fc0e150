import Mathlib
import RobotProgram.LocalFiles
/-!
# RobotProgram.Proofs.FileWrites

What a write leaves in the local files. A write that succeeds resolves its path to a name in an
existing directory; it gives its bytes to a device found there, or puts them there as a file
where a file or nothing was. It makes no directory, so every walk that succeeded before
succeeds again to the same place, and a path that resolves to any other name reads as before.

Main statements: `readText_writeText` (a text written where no device is reads back as that
text) and `readText_writeText_of_fileName` (a write to a file of another name leaves what a path
reads as it was).
-/

namespace RobotProgram

namespace LocalFiles

variable {fs fs' : LocalFiles} {names : List String}

/-! ## Looking names up -/

theorem ne_nil_of_find?_ne_directory (h : fs.find? names ≠ some .directory) : names ≠ [] := by
  rintro rfl
  exact h rfl

/-- A put is found at its path of names, and every other path of names finds what it found. -/
theorem find?_put {e : FileEntry} (hne : names ≠ []) (n : List String) :
    (fs.put names e).find? n = if n = names then some e else fs.find? n := by
  unfold find? put
  by_cases hn : n = names
  · subst hn
    have hnone : (fs.entries.filter (·.1 != n)).find? (·.1 == n) = none :=
      List.find?_eq_none.2 fun x hx => by simp_all
    simp [hne, List.find?_append, hnone]
  · have hsame : (fs.entries.filter (·.1 != names)).find? (·.1 == n) = fs.entries.find? (·.1 == n) := by
      rw [List.find?_filter]
      congr 1
      funext x
      by_cases hx : x.1 = n
      · simp [hx, hn]
      · simp [hx]
    simp only [List.find?_append, hsame, if_neg hn]
    cases fs.entries.find? (·.1 == n) <;> simp [Ne.symm hn]

/-- What a lookup finds: a name of allowed length in a known directory, and what is there. -/
theorem lookup_eq_ok {dir : Place} {name : String} {found : List String × FileEntry} :
    fs.lookup dir name = .ok found ↔ ¬ name.utf8ByteSize > nameMax ∧
      ∃ d, dir = .inside d ∧ found.1 = d ++ [name] ∧ fs.find? (d ++ [name]) = some found.2 := by
  unfold lookup
  split_ifs with hlen
  · exact ⟨nofun, fun h => absurd hlen h.1⟩
  · cases dir with
    | above => exact ⟨nofun, fun ⟨_, _, hd, _⟩ => nomatch hd⟩
    | inside d =>
      dsimp only
      obtain ⟨ns, e'⟩ := found
      cases hf : fs.find? (d ++ [name]) with
      | none =>
        refine ⟨nofun, fun ⟨_, d', hd, _, hfound⟩ => ?_⟩
        cases hd
        rw [hf] at hfound
        cases hfound
      | some e =>
        constructor
        · intro h
          cases h
          exact ⟨hlen, d, rfl, rfl, hf⟩
        · rintro ⟨-, d', hd, hns, he⟩
          cases hd
          rw [hf, Option.some.injEq] at he
          dsimp only at hns he
          rw [hns, he]

/-- A lookup that finds nothing: a name of allowed length, in a directory above the working
directory or in a known one where nothing is. -/
theorem lookup_eq_notFound {dir : Place} {name : String} :
    fs.lookup dir name = .error .notFound ↔ ¬ name.utf8ByteSize > nameMax ∧
      (dir = .above ∨ ∃ d, dir = .inside d ∧ fs.find? (d ++ [name]) = none) := by
  unfold lookup
  split_ifs with hlen
  · exact ⟨nofun, fun h => absurd hlen h.1⟩
  · cases dir with
    | above => exact ⟨fun _ => ⟨hlen, .inl rfl⟩, fun _ => rfl⟩
    | inside d =>
      dsimp only
      cases hf : fs.find? (d ++ [name]) with
      | none => exact ⟨fun _ => ⟨hlen, .inr ⟨d, rfl, hf⟩⟩, fun _ => rfl⟩
      | some e =>
        refine ⟨nofun, fun ⟨_, h⟩ => ?_⟩
        obtain habove | ⟨d', hd, hnone⟩ := h
        · cases habove
        · cases hd
          rw [hf] at hnone
          cases hnone

/-- A put where no directory was keeps every lookup that found a directory. -/
theorem lookup_put_of_directory {e : FileEntry} (hnames : fs.find? names ≠ some .directory)
    {dir : Place} {name : String} {ns : List String}
    (h : fs.lookup dir name = .ok (ns, .directory)) :
    (fs.put names e).lookup dir name = .ok (ns, .directory) := by
  obtain ⟨hlen, d, rfl, hns, hfound⟩ := lookup_eq_ok.1 h
  have hne : d ++ [name] ≠ names := fun heq => hnames (heq ▸ hfound)
  refine lookup_eq_ok.2 ⟨hlen, d, rfl, hns, ?_⟩
  rw [find?_put (ne_nil_of_find?_ne_directory hnames), if_neg hne, hfound]

/-- A lookup of another path of names does not see a put. -/
theorem lookup_put_of_ne {e : FileEntry} (hne : names ≠ []) {d : List String} {name : String}
    (hother : d ++ [name] ≠ names) :
    (fs.put names e).lookup (.inside d) name = fs.lookup (.inside d) name := by
  unfold lookup
  dsimp only
  rw [find?_put hne, if_neg hother]

/-- A put is what a lookup of its own path of names finds. -/
theorem lookup_put_self {e : FileEntry} {d : List String} {name : String}
    (hlen : ¬ name.utf8ByteSize > nameMax) :
    (fs.put (d ++ [name]) e).lookup (.inside d) name = .ok (d ++ [name], e) :=
  lookup_eq_ok.2 ⟨hlen, d, rfl, rfl, by rw [find?_put (by simp), if_pos rfl]⟩

/-! ## Walks and resolution -/

/-- A put where no directory was keeps every walk that succeeded: the walk only passed through
directories, none of them at the put's path of names. -/
theorem walk_put {e : FileEntry} (hnames : fs.find? names ≠ some .directory) :
    ∀ {place : Place} {parts : List String} {q : Place}, fs.walk place parts = .ok q →
      (fs.put names e).walk place parts = .ok q
  | _, [], _, h => h
  | place, c :: rest, q, h => by
    unfold walk at h ⊢
    by_cases hdot : c = "."
    · rw [if_pos hdot] at h ⊢
      exact walk_put hnames h
    · rw [if_neg hdot] at h ⊢
      by_cases hup : c = ".."
      · rw [if_pos hup] at h ⊢
        exact walk_put hnames h
      · rw [if_neg hup] at h ⊢
        cases hl : fs.lookup place c with
        | error f =>
          rw [hl] at h
          cases h
        | ok found =>
          obtain ⟨ns, entry⟩ := found
          rw [hl] at h
          cases entry with
          | directory =>
            rw [lookup_put_of_directory hnames hl]
            exact walk_put hnames h
          | file bytes => cases h
          | sink => cases h

/-- A put where no directory was keeps what every path resolved to. -/
theorem resolve_put {e : FileEntry} (hnames : fs.find? names ≠ some .directory) {path : String}
    {t : Target} (h : fs.resolve path = .ok t) : (fs.put names e).resolve path = .ok t := by
  unfold resolve at h ⊢
  dsimp only at h ⊢
  generalize (if path.startsWith "/" then Place.inside ["/"] else Place.inside []) = start at h ⊢
  generalize (path.splitOn "/").filter (· ≠ "") = parts at h ⊢
  split_ifs at h ⊢
  -- past its checks, resolution reads the tree only through the walk
  cases hlast : parts.getLast? with
  | none =>
    rw [hlast] at h
    exact h
  | some last =>
    rw [hlast] at h
    dsimp only at h ⊢
    cases hw : fs.walk start parts.dropLast with
    | error f =>
      rw [hw] at h
      cases h
    | ok here =>
      rw [hw] at h
      rw [walk_put hnames hw]
      exact h

/-- The last name of a path that resolves to a name is that name. -/
theorem fileName?_of_resolve {path name : String} {dir : Place} {slash : Bool}
    (h : fs.resolve path = .ok (.named dir name slash)) : fileName? path = some name := by
  unfold resolve at h
  dsimp only at h
  generalize (if path.startsWith "/" then Place.inside ["/"] else Place.inside []) = start at h
  split_ifs at h
  cases hlast : ((path.splitOn "/").filter (· ≠ "")).getLast? with
  | none =>
    rw [hlast] at h
    cases h
  | some last =>
    rw [hlast] at h
    dsimp only at h
    cases hw : fs.walk start ((path.splitOn "/").filter (· ≠ "")).dropLast with
    | error f =>
      rw [hw] at h
      cases h
    | ok here =>
      rw [hw] at h
      dsimp only at h
      split_ifs at h with hdot hup
      · cases h
      · cases h
      cases h
      -- the last part that is not empty is also the last that is neither empty nor `.`
      obtain ⟨init, hinit⟩ := List.getLast?_eq_some_iff.1 hlast
      have hfilter : (path.splitOn "/").filter (fun c => c ≠ "" ∧ c ≠ ".") =
          ((path.splitOn "/").filter (· ≠ "")).filter (· ≠ ".") := by
        rw [List.filter_filter]
        congr 1
        funext c
        simp [Bool.and_comm]
      unfold fileName?
      rw [hfilter, hinit, List.filter_append]
      simp [hdot, hup]

/-! ## Reading -/

/-- The path names a device. -/
def NamesDevice (fs : LocalFiles) (path : String) : Prop := entry? fs path = .ok .sink

/-- A text read from a path depends on nothing but what the path names. -/
theorem readText_congr {path : String} (h : entry? fs' path = entry? fs path) :
    fs'.readText path = fs.readText path := by
  unfold readText readBytes
  rw [h]

theorem fromUTF8?_toByteArray (text : String) : String.fromUTF8? text.toByteArray = some text := by
  simp [String.fromUTF8?, text.isValidUTF8, String.fromUTF8]

/-- A path that names the file of a text reads as that text. -/
theorem readText_of_file {path text : String} (h : entry? fs path = .ok (.file text.toUTF8)) :
    fs.readText path = .ok text := by
  simp [readText, readBytes, h, fromUTF8?_toByteArray, bind, Except.bind, pure, Except.pure]

/-- A path that names a device reads as empty. -/
theorem readText_of_device {path : String} (h : fs.NamesDevice path) :
    fs.readText path = .ok "" := by
  have hempty : String.fromUTF8? ByteArray.empty = some "" := fromUTF8?_toByteArray ""
  unfold NamesDevice at h
  simp [readText, readBytes, h, hempty, bind, Except.bind, pure, Except.pure]

/-- A path that reads names a file or a device, by a name in a known directory. -/
theorem resolve_of_readText {path text : String} (h : fs.readText path = .ok text) :
    ∃ d name slash, fs.resolve path = .ok (.named (.inside d) name slash) := by
  unfold readText readBytes entry? at h
  cases hres : fs.resolve path with
  | error f => simp [hres, bind, Except.bind] at h
  | ok t =>
    cases t with
    | dir place => simp [hres, bind, Except.bind] at h
    | named dir name slash =>
      cases dir with
      | inside d => exact ⟨d, name, slash, rfl⟩
      | above =>
        -- nothing above the working directory is known
        obtain ⟨f, hf⟩ : ∃ f, fs.lookup .above name = .error f := by
          unfold lookup
          split_ifs <;> exact ⟨_, rfl⟩
        simp [hres, hf, bind, Except.bind] at h

/-- A path that reads exists. -/
theorem metadata_of_readText {path text : String} (h : fs.readText path = .ok text) :
    fs.metadata path = .ok () := by
  unfold readText readBytes at h
  unfold metadata
  cases he : entry? fs path with
  | error f =>
    rw [he] at h
    cases h
  | ok e => rfl

/-- A put elsewhere than a path's name, where no directory was, keeps what the path reads. -/
theorem entry?_put_of_ne {e : FileEntry} (hnames : fs.find? names ≠ some .directory)
    {path : String} {d : List String} {name : String} {slash : Bool}
    (hres : fs.resolve path = .ok (.named (.inside d) name slash)) (hother : d ++ [name] ≠ names) :
    entry? (fs.put names e) path = entry? fs path := by
  unfold entry?
  rw [resolve_put hnames hres, hres]
  dsimp only
  rw [lookup_put_of_ne (ne_nil_of_find?_ne_directory hnames) hother]

/-! ## Writing -/

/-- What a write that succeeded did: its path resolves to a name in a known directory, and it
gave the bytes to a device there, or put them there as a file where no directory was. -/
theorem writeBytes_eq_ok {path : String} {bytes : ByteArray} (h : fs.writeBytes path bytes = .ok fs') :
    ∃ d name, fs.resolve path = .ok (.named (.inside d) name false) ∧
      ((fs.NamesDevice path ∧ fs' = fs) ∨
        (¬ name.utf8ByteSize > nameMax ∧ fs.find? (d ++ [name]) ≠ some .directory ∧
          fs' = fs.put (d ++ [name]) (.file bytes))) := by
  unfold writeBytes at h
  split at h
  · cases h
  · cases h
  · rename_i dir name slash hres
    split at h
    · cases h
    · rename_i hslash
      simp only [Bool.not_eq_true] at hslash
      subst hslash
      split at h
      · cases h
      · -- a device swallows the bytes
        rename_i ns hl
        cases h
        obtain ⟨-, d, rfl, -, -⟩ := lookup_eq_ok.1 hl
        refine ⟨d, name, hres, .inl ⟨?_, rfl⟩⟩
        unfold NamesDevice entry?
        simp [hres, hl]
      · -- a file is overwritten
        rename_i ns old hl
        cases h
        obtain ⟨hlen, d, rfl, hns, hfound⟩ := lookup_eq_ok.1 hl
        subst hns
        exact ⟨d, name, hres, .inr ⟨hlen, by rw [hfound]; simp, rfl⟩⟩
      · -- a new file is made in a known directory
        rename_i hl
        obtain ⟨hlen, habove | ⟨d, rfl, hnone⟩⟩ := lookup_eq_notFound.1 hl
        · subst habove
          cases h
        · cases h
          exact ⟨d, name, hres, .inr ⟨hlen, by rw [hnone]; simp, rfl⟩⟩
      · cases h

/-- A write that succeeded was to a path with a file name. -/
theorem fileName?_isSome_of_writeText {path text : String} (h : fs.writeText path text = .ok fs') :
    (fileName? path).isSome := by
  obtain ⟨d, name, hres, -⟩ := writeBytes_eq_ok h
  simp [fileName?_of_resolve hres]

/-- A text written to a path where no device is reads back as that text. -/
theorem readText_writeText {path text : String} (h : fs.writeText path text = .ok fs')
    (hdevice : ¬ fs.NamesDevice path) : fs'.readText path = .ok text := by
  obtain ⟨d, name, hres, ⟨hsink, -⟩ | ⟨hlen, hnames, rfl⟩⟩ := writeBytes_eq_ok h
  · exact absurd hsink hdevice
  · refine readText_of_file ?_
    unfold entry?
    rw [resolve_put hnames hres]
    dsimp only
    rw [lookup_put_self hlen]
    rfl

/-- A path that has been written reads, as the text written or as a device's nothing. -/
theorem readText_writeText_exists {path text : String} (h : fs.writeText path text = .ok fs') :
    ∃ t, fs'.readText path = .ok t := by
  obtain ⟨d, name, hres, ⟨hsink, rfl⟩ | ⟨hlen, hnames, rfl⟩⟩ := writeBytes_eq_ok h
  · exact ⟨"", readText_of_device hsink⟩
  · refine ⟨text, readText_of_file ?_⟩
    unfold entry?
    rw [resolve_put hnames hres]
    dsimp only
    rw [lookup_put_self hlen]
    rfl

/-- A write to a file of another name leaves what a path reads as it was. -/
theorem readText_writeText_of_fileName {path other text read : String}
    (h : fs.writeText path text = .ok fs') (hname : fileName? path ≠ fileName? other)
    (hread : fs.readText other = .ok read) : fs'.readText other = .ok read := by
  obtain ⟨d, name, hres, ⟨-, rfl⟩ | ⟨-, hnames, rfl⟩⟩ := writeBytes_eq_ok h
  · exact hread
  · obtain ⟨d', name', slash, hres'⟩ := resolve_of_readText hread
    -- the two paths end in different names, so they name different entries
    have hother : d' ++ [name'] ≠ d ++ [name] := fun heq => by
      have hlast : name' = name := by simpa using (List.append_inj' heq rfl).2
      rw [fileName?_of_resolve hres, fileName?_of_resolve hres', hlast] at hname
      exact hname rfl
    rw [readText_congr (entry?_put_of_ne hnames hres' hother), hread]

end LocalFiles

end RobotProgram
