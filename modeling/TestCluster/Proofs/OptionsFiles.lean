import TestCluster.Options.File
import TestCluster.Proofs.EncodedText
import TestCluster.Proofs.WrittenOptions
import TestCluster.Proofs.YamlNodes
import TestCluster.Scripted.Backend

/-!
# Options files — what is saved is loaded

    The file at a path is written and read in the same format, for which the path's extension
    alone decides.  In JSON the text of options is read back as the tree of their value, with
    nothing assumed of them.  In YAML the text is left to its readers and writers: it is
    supposed that the nodes which were written are read.  Either way the options are read back
    from what was read (`ofBytes_fileText`), and a file system that keeps files gives the bytes
    that were written.
-/

namespace TestCluster

namespace Json

theorem nat?_numberOf (n : Nat) : (numberOf n).nat? = some n := by
  have hnegative : ¬ (n : Int) < 0 := by omega
  have hvalue : digitsValue (numberOf n).whole = n := Text.foldl_decimalChars n
  rw [Number.nat?, if_neg (by simp [numberOf, hnegative]), hvalue]

/-- The readers of JSON give what stands at the places of written values. -/
theorem says_ofValue (depth : Nat) :
    Json.format.Says (fun level v => Place.ofValue v level) depth where
  text _ _ := rfl
  natBelow := by
    intro level bound n hn _
    show ((numberOf n).nat?.filter (· < bound)) = some n
    rw [nat?_numberOf, Option.filter_some, if_pos (decide_eq_true hn)]
  bool _ _ := rfl
  null _ := rfl
  thereText _ _ := rfl
  thereNat _ _ := rfl
  items vs _ := Place.items?_ofValue vs _
  fields members _ := by
    show ((Place.ofValue (.object members) _).members?).map Sum.inr = _
    rw [Place.members?_ofValue]
    rfl

end Json

namespace Options

theorem hasFloat_toValue (o : Options) : o.toValue.hasFloat = false := by
  have htext : ∀ text : Option String, (textValue text).hasFloat = false := by
    intro text
    cases text <;> rfl
  have himages : (Value.array (o.images.map .string)).hasFloat = false :=
    Value.hasFloat_array (List.forall_mem_map.2 fun _ _ => rfl)
  have hports : (Value.array (o.nodePorts.map portValue)).hasFloat = false :=
    Value.hasFloat_array (List.forall_mem_map.2 fun _ _ => rfl)
  have hwait : (waitValue o.waitSeconds).hasFloat = false := by cases o.waitSeconds <;> rfl
  refine Value.hasFloat_object ?_
  simp only [List.forall_mem_cons]
  exact ⟨htext _, himages, hwait, hports, rfl, htext _, htext _, rfl, List.forall_mem_nil _⟩

/-- Options are read back from their JSON text. -/
theorem ofJson_indented (o : Options) : ofJson (Json.indented o.toValue) = .ok o := by
  have hread : Json.read read (Json.indented o.toValue) = some o := by
    rw [Json.read, Json.ofText?_indented o.hasFloat_toValue]
    exact read_toValue (Json.says_ofValue 3) (Nat.le_refl 3) o
  rw [ofJson, hread]

/-- The YAML text of options is read as the nodes that were written. -/
def YamlReadsBack (o : Options) : Prop :=
  Yaml.Document.single? (Yaml.print o.toValue) = some (.ofValue o.toValue)

instance (o : Options) : Decidable (YamlReadsBack o) := inferInstanceAs (Decidable (_ = _))

/-- Options are read back from their YAML text, if the nodes are. -/
theorem ofYaml_print {o : Options} (h : YamlReadsBack o) :
    ofYaml (Yaml.print o.toValue) = .ok o := by
  have hoptions := read_toValue (Yaml.Document.says_ofValue (.ofValue o.toValue)) (by decide) o
  have hread : (Yaml.Document.ofValue o.toValue).read read = some o :=
    congrArg (fun reading : Yaml.Reading Options =>
      (reading (100 * (Yaml.Document.ofValue o.toValue).words)).map Prod.fst) hoptions
  rw [ofYaml, h, Option.bind_some, hread]

/-- Options are read back from the bytes that are written at a path. -/
theorem ofBytes_fileText {path : String} {o : Options}
    (hyaml : isYamlPath path = true → YamlReadsBack o) :
    ofBytes path (o.fileText path).toUTF8.toList = .ok o := by
  rw [ofBytes, Text.decode?_toUTF8]
  show (if isYamlPath path = true then ofYaml (o.fileText path) else ofJson (o.fileText path)) = _
  rw [fileText]
  by_cases hpath : isYamlPath path = true
  · rw [if_pos hpath, if_pos hpath]
    exact ofYaml_print (hyaml hpath)
  · rw [if_neg hpath, if_neg hpath]
    exact ofJson_indented o

/-! ## Saving and loading -/

variable {σ : Type}

/-- What was written to a file is read from it. -/
def KeepsFiles (handle : Handler World.calls σ) : Prop :=
  ∀ (path : String) (content : List UInt8) (s s' : σ),
    handle (.host (.writeFile path content)) s = (Except.ok (), s') →
      (handle (.host (.readFile path)) s').1 = Except.ok content

/-- An attempt that starts with a call goes on from the answer, in the state after it. -/
theorem run_host_bind {α : Type} (handle : Handler World.calls σ) (s : σ) (c : Host.Call)
    (f : Host.Answer c → Attempt World.calls α) :
    (liftM (World.host c) >>= f : Attempt World.calls α).run.run handle s =
      (f (handle (.host c) s).1).run.run handle (handle (.host c) s).2 := rfl

/-- Options that are saved have been written. -/
theorem written_of_save {handle : Handler World.calls σ} {s s' : σ} {path : String} {o : Options}
    (h : (save path o).run.run handle s = (.ok (), s')) :
    handle (.host (.writeFile path (o.fileText path).toUTF8.toList)) s = (Except.ok (), s') := by
  rw [save, run_host_bind] at h
  cases hwrite : handle (.host (.writeFile path (o.fileText path).toUTF8.toList)) s with
  | mk answer after =>
      rw [hwrite] at h
      cases answer with
      | error fault => exact nomatch h
      | ok done =>
          obtain ⟨-, rfl⟩ := Prod.mk.inj h
          rfl

/-- Bytes that are read from a file are what is loaded from it. -/
theorem load_of_read {handle : Handler World.calls σ} {s : σ} {path : String} {bytes : List UInt8}
    (h : (handle (.host (.readFile path)) s).1 = Except.ok bytes) :
    ((load path).run.run handle s).1 = ofBytes path bytes := by
  rw [load, run_host_bind, h]
  rfl

/-- **WHAT IS SAVED IS LOADED.**  Options that were saved to a path are loaded from it, whatever
    they are, if the file system keeps files, and, at a path for YAML, if the nodes that were
    written are read. -/
theorem load_saved {handle : Handler World.calls σ} (hfiles : KeepsFiles handle) {s s' : σ}
    {path : String} {o : Options} (hyaml : isYamlPath path = true → YamlReadsBack o)
    (hsave : (save path o).run.run handle s = (.ok (), s')) :
    ((load path).run.run handle s').1 = .ok o := by
  have hread := hfiles _ _ _ _ (written_of_save hsave)
  rw [load_of_read hread]
  exact ofBytes_fileText hyaml

/-- Options with texts that have to be escaped or quoted, in either format. -/
def quoted : Options where
  rawConfig := some "a: \"b\"\n"
  images := ["it's", "true", "\x07"]
  waitSeconds := some 60
  nodePorts := [⟨80, 8080⟩]

end Options

namespace Scripted

/-! ## A disk that keeps files -/

variable {d d' : Disk} {place : Place} {content : List UInt8}

/-- A path leads to a file, or to where one can be. -/
inductive Disk.FileAt (place : Place) : Except OsError Target → Prop
  | there (before : List UInt8) : FileAt place (.ok (.file place before))
  | possible : FileAt place (.ok (.nothing place false))

theorem Disk.hasDirectory_put (p : Place) :
    (d.put place content).hasDirectory p = d.hasDirectory p := rfl

/-- Where a file is or can be, there is the file that is put there. -/
theorem Disk.follow_put {here : Place} {pieces : List String}
    (h : FileAt place (d.follow here pieces)) (content : List UInt8) :
    (d.put place content).follow here pieces = .ok (.file place content) := by
  induction pieces generalizing here with
  | nil => exact nomatch h
  | cons piece pieces ih =>
      rw [follow] at h ⊢
      by_cases hstays : stays piece = true
      · rw [if_pos hstays] at h ⊢
        exact ih h
      rw [if_neg hstays] at h ⊢
      by_cases hup : (piece == "..") = true
      · rw [if_pos hup] at h ⊢
        exact ih h
      rw [if_neg hup] at h ⊢
      by_cases hlong : longestName < piece.utf8ByteSize
      · rw [if_pos hlong] at h
        exact nomatch h
      rw [if_neg hlong] at h ⊢
      dsimp only at h ⊢
      by_cases hdirectory : d.hasDirectory (here ++ [piece]) = true
      · rw [if_pos hdirectory] at h
        rw [hasDirectory_put, if_pos hdirectory]
        exact ih h
      rw [if_neg hdirectory] at h
      rw [hasDirectory_put, if_neg hdirectory]
      -- the path ends here, so it is the file's own place
      have hend : here ++ [piece] = place ∧ pieces.isEmpty = true := by
        split at h
        · split at h
          · cases h
            exact ⟨rfl, ‹_›⟩
          · exact nomatch h
        · split at h
          · generalize hmark : (!pieces.isEmpty) = asDirectory at h
            cases h
            exact ⟨rfl, by simpa using hmark⟩
          · exact nomatch h
      rw [hend.1, put, List.lookup_cons_self]
      exact if_pos hend.2

theorem Disk.find_put {path : String} {target : Target} (hat : FileAt place (.ok target))
    (h : d.find path = .ok target) (content : List UInt8) :
    (d.put place content).find path = .ok (.file place content) := by
  rw [find] at h ⊢
  by_cases hzero : '\x00' ∈ path.toList
  · rw [if_pos hzero] at h
    exact nomatch h
  rw [if_neg hzero] at h ⊢
  by_cases hempty : path = ""
  · rw [if_pos hempty] at h
    exact nomatch h
  rw [if_neg hempty] at h ⊢
  by_cases hlong : tooLongPath ≤ path.utf8ByteSize
  · rw [if_pos hlong] at h
    exact nomatch h
  rw [if_neg hlong] at h ⊢
  dsimp only at h ⊢
  cases hfollow : d.follow (if Path.IsAbsolute path then [] else d.current)
      ((Path.piecesAt '/' path.toList).map String.ofList) with
  | error cause =>
      rw [hfollow] at h
      exact nomatch h
  | ok found =>
      rw [hfollow] at h
      obtain rfl : found = target := Except.ok.inj h
      have hput := follow_put (hfollow ▸ hat) content
      exact congrArg (Except.mapError FileFault.system) hput

/-- What was written to a file of a disk is read from it. -/
theorem Disk.read_write {path : String} (h : d.write path content = .ok d') :
    d'.read path = .ok content := by
  rw [write] at h
  split at h
  · exact nomatch h
  · exact nomatch h
  · exact nomatch h
  · rename_i hfind
    obtain rfl := Except.ok.inj h
    rw [read, find_put (.there _) hfind]
  · rename_i hfind
    obtain rfl := Except.ok.inj h
    rw [read, find_put .possible hfind]

/-- A scripted world keeps files. -/
theorem keepsFiles : Options.KeepsFiles Scene.handle := by
  intro path content s s' h
  rw [Scene.handle, Machine.handle] at h
  cases hwrite : s.machine.disk.write path content with
  | error fault =>
      rw [hwrite] at h
      exact nomatch h
  | ok disk =>
      rw [hwrite] at h
      obtain ⟨-, rfl⟩ := Prod.mk.inj h
      exact Disk.read_write hwrite

end Scripted

namespace Options

/-- A machine with a directory for files. -/
def desk : Scripted.Scene where
  machine := { tempDir := "/tmp", disk := { directories := [["tmp"]] } }

theorem load_saved_quoted : ∃ s, Options.KeepsFiles Scripted.Scene.handle ∧
    (isYamlPath "/tmp/cluster.yaml" = true → YamlReadsBack quoted) ∧
    (save "/tmp/cluster.yaml" quoted).run.run Scripted.Scene.handle desk = (.ok (), s) ∧
    ((load "/tmp/cluster.yaml").run.run Scripted.Scene.handle s).1 = .ok quoted := by
  have hyaml : YamlReadsBack quoted := by
    rw [YamlReadsBack, Yaml.print, Yaml.Document.single?, Yaml.Document.all?,
      String.toList_ofList]
    decide +kernel
  cases hsave : (save "/tmp/cluster.yaml" quoted).run.run Scripted.Scene.handle desk with
  | mk result s =>
      have hresult : ((save "/tmp/cluster.yaml" quoted).run.run Scripted.Scene.handle
          desk).1.isOk = true := by
        decide +kernel
      rw [hsave] at hresult
      cases result with
      | error e => exact nomatch hresult
      | ok done =>
          exact ⟨s, Scripted.keepsFiles, fun _ => hyaml, rfl,
            load_saved Scripted.keepsFiles (fun _ => hyaml) hsave⟩

end Options

end TestCluster
