import PluginHost.Host.Inspection
import PluginHost.Proofs.Admission.Scan
import PluginHost.Proofs.Manifest.Stream
import PluginHost.Proofs.Manifest.Writing

/-!
# A bundle directory and its manifest file

A manifest can be checked under the path of its directory or under its own.  Of a directory it is
read up to the greatest size, as it is when the bundle is loaded, but a manifest file is read
whole.  The two agree unless the file is above the greatest size and a manifest all the same.
-/

namespace PluginHost

open Text

/-! ### Paths of manifest files -/

theorem Path.fileName?_join {directory name : String} (notEmpty : directory ≠ "")
    (isName : IsName name) : fileName? (join directory name) = some name := by
  have ends : ∃ front, pieces (join directory name) = front ++ [name] := by
    rw [← isName.pieces_eq]
    rcases pieces_join notEmpty isName.not_isAbsolute with joined | ⟨front, -, -, joined⟩
    · exact ⟨_, joined⟩
    · exact ⟨front, joined⟩
  obtain ⟨front, ends⟩ := ends
  simp [fileName?, parts, ends, isName.notEmpty, isName.notHere, isName.notUp]

/-! ### Reading with a limit and without -/

variable {bytes : List UInt8} {text : String}

variable {files : FileView} {directory : String}

theorem FileView.ne_empty_of_isDirectory (isDirectory : files.isDirectory directory = true) :
    directory ≠ "" := by
  rintro rfl
  cases isDirectory

theorem FileView.isFile_of_readBytes {path : String} (found : files.readBytes path = .ok bytes) :
    files.isFile path = true := by
  rw [readBytes] at found
  rw [isFile]
  split at found
  · cases found
  · cases found
  · next content there => rw [there]

theorem FileView.isFile_eq_false_of_isDirectory (isDirectory : files.isDirectory directory = true) :
    files.isFile directory = false := by
  rw [FileView.isDirectory] at isDirectory
  rw [isFile]
  split at isDirectory
  · next entries there => rw [there]
  · cases isDirectory

/-- The manifest that a text in a file gives, if there is one. -/
def manifestOf? (bytes : List UInt8) : Option Manifest :=
  (decodeText? bytes).bind fun text => (Manifest.parse text).toOption

theorem manifestAt_directory (isDirectory : files.isDirectory directory = true) :
    manifestAt files directory = PluginBundle.manifest files ⟨directory, .directory⟩ := by
  have bundle : PluginBundle.ofPath? files directory = some ⟨directory, .directory⟩ := by
    rw [PluginBundle.ofPath?, if_pos isDirectory]
  rw [manifestAt, FileView.isFile_eq_false_of_isDirectory isDirectory, Bool.false_and,
    if_neg Bool.false_ne_true, bundle]

theorem toOption_manifestAt_file (isDirectory : files.isDirectory directory = true)
    (found : files.readBytes (Path.join directory manifestFileName) = .ok bytes) :
    (manifestAt files (Path.join directory manifestFileName)).toOption = manifestOf? bytes := by
  have notEmpty := FileView.ne_empty_of_isDirectory isDirectory
  have isManifest : (files.isFile (Path.join directory manifestFileName) &&
      Path.fileName? (Path.join directory manifestFileName) == some manifestFileName) = true := by
    rw [FileView.isFile_of_readBytes found,
      Path.fileName?_join notEmpty PluginBundle.isName_manifestFileName]
    exact beq_self_eq_true (some manifestFileName)
  simp only [manifestAt, if_pos isManifest, FileView.readText, found, manifestOf?]
  cases decodeText? bytes with
  | none => rfl
  | some text =>
      dsimp only [Option.bind_some]
      cases Manifest.parse text <;> rfl

theorem toOption_manifest_of_le (fits : bytes.length ≤ maxManifestSize)
    (found : files.readBytes (Path.join directory manifestFileName) = .ok bytes) :
    (PluginBundle.manifest files ⟨directory, .directory⟩).toOption = manifestOf? bytes := by
  rw [PluginBundle.manifest, PluginBundle.manifestText, PluginBundle.directoryText]
  simp only [found, readManifestStream_of_le fits, manifestOf?]
  cases decodeText? bytes with
  | none => rfl
  | some text =>
      dsimp only [Option.bind_some, Except.mapError]
      cases Manifest.parse text <;> rfl

theorem exists_manifest_error_of_lt (large : maxManifestSize < bytes.length)
    (found : files.readBytes (Path.join directory manifestFileName) = .ok bytes) :
    ∃ error, PluginBundle.manifest files ⟨directory, .directory⟩ = .error error := by
  have refused := @readManifestStream_of_lt ⟨bytes, none⟩ large
  rw [PluginBundle.manifest, PluginBundle.manifestText, PluginBundle.directoryText]
  simp only [found, refused, Except.mapError]
  exact ⟨_, rfl⟩

/-! ### Checking under the two paths -/

theorem toOption_map {ε α β : Type} (outcome : Except ε α) (change : α → β) :
    (outcome.map change).toOption = outcome.toOption.map change := by
  cases outcome <;> rfl

namespace HostSettings

variable (settings : HostSettings)

theorem checkManifest_directory (isDirectory : files.isDirectory directory = true) :
    settings.checkManifest files directory =
      (PluginBundle.manifest files ⟨directory, .directory⟩).map
        (AdmissionReport.of settings.admissionRules) := by
  rw [checkManifest, manifestAt_directory isDirectory]

theorem toOption_checkManifest_file (isDirectory : files.isDirectory directory = true)
    (found : files.readBytes (Path.join directory manifestFileName) = .ok bytes) :
    (settings.checkManifest files (Path.join directory manifestFileName)).toOption =
      (manifestOf? bytes).map (AdmissionReport.of settings.admissionRules) := by
  rw [checkManifest, toOption_map, toOption_manifestAt_file isDirectory found]

theorem exists_checkManifest_error_of_lt (isDirectory : files.isDirectory directory = true)
    (found : files.readBytes (Path.join directory manifestFileName) = .ok bytes)
    (large : maxManifestSize < bytes.length) :
    ∃ error, settings.checkManifest files directory = .error error := by
  obtain ⟨error, failed⟩ := exists_manifest_error_of_lt large found
  exact ⟨error, by rw [checkManifest_directory settings isDirectory, failed, Except.map]⟩

/-- The two checks fail or report the same, unless the file is too long and has a manifest all the
same. -/
theorem checkManifest_agree_iff (isDirectory : files.isDirectory directory = true)
    (found : files.readBytes (Path.join directory manifestFileName) = .ok bytes) :
    (settings.checkManifest files directory).toOption =
        (settings.checkManifest files (Path.join directory manifestFileName)).toOption ↔
      (maxManifestSize < bytes.length → manifestOf? bytes = none) := by
  rw [settings.toOption_checkManifest_file isDirectory found]
  by_cases large : maxManifestSize < bytes.length
  · obtain ⟨error, failed⟩ := settings.exists_checkManifest_error_of_lt isDirectory found large
    rw [failed]
    simp [Except.toOption, large, eq_comm]
  · rw [settings.checkManifest_directory isDirectory, toOption_map,
      toOption_manifest_of_le (Nat.le_of_not_lt large) found]
    simp [large]

/-- How the manifest file of a directory is checked under the two paths, next to how the directory
is loaded. -/
structure ChecksAsLoaded (files : FileView) (directory : String) (bytes : List UInt8) : Prop where
  agree_iff :
    (settings.checkManifest files directory).toOption =
        (settings.checkManifest files (Path.join directory manifestFileName)).toOption ↔
      (maxManifestSize < bytes.length → manifestOf? bytes = none)
  tooLong : maxManifestSize < bytes.length →
    ∃ error, settings.checkManifest files directory = .error error
  ofFile : (settings.checkManifest files (Path.join directory manifestFileName)).toOption =
    (manifestOf? bytes).map (AdmissionReport.of settings.admissionRules)
  /-- What is reported of a directory is about the manifest that is loaded from it. -/
  loads : ∀ report, settings.checkManifest files directory = .ok report →
    report = .of settings.admissionRules report.manifest ∧
      ∀ manager : PluginManager, manager.loadBundle files ⟨directory, .directory⟩ =
        manager.load report.manifest (.bundle directory) (some directory)
  refuses : ∀ error, settings.checkManifest files directory = .error error →
    ∀ manager : PluginManager, manager.loadBundle files ⟨directory, .directory⟩ =
      manager.refused (.manifest error)

theorem checksAsLoaded (isDirectory : files.isDirectory directory = true)
    (found : files.readBytes (Path.join directory manifestFileName) = .ok bytes) :
    settings.ChecksAsLoaded files directory bytes := by
  refine ⟨settings.checkManifest_agree_iff isDirectory found,
    settings.exists_checkManifest_error_of_lt isDirectory found,
    settings.toOption_checkManifest_file isDirectory found, ?_, ?_⟩
  all_goals rw [settings.checkManifest_directory isDirectory]
  · intro report reported
    cases read : PluginBundle.manifest files ⟨directory, .directory⟩ with
    | error error =>
        rw [read] at reported
        cases reported
    | ok manifest =>
        rw [read] at reported
        cases reported
        refine ⟨rfl, fun manager => ?_⟩
        rw [PluginManager.loadBundle, read]
        rfl
  · intro error failed manager
    cases read : PluginBundle.manifest files ⟨directory, .directory⟩ with
    | error error =>
        rw [read] at failed
        cases failed
        rw [PluginManager.loadBundle, read]
    | ok manifest =>
        rw [read] at failed
        cases failed

end HostSettings

/-! ### A manifest with blanks behind it -/

theorem JsonReader.skipSeparators_blanks (count : Nat) :
    skipSeparators (symbolsOf (String.ofList (List.replicate count ' '))) = [] := by
  rw [symbolsOf, String.toList_ofList]
  induction count with
  | zero => rfl
  | succ count ih => exact ih

namespace Manifest

variable {manifest : Manifest}

/-- The text of a manifest with blanks behind it. -/
def paddedText (manifest : Manifest) (count : Nat) : String :=
  manifest.toJson.compact ++ String.ofList (List.replicate count ' ')

theorem parse_paddedText (sound : manifest.IsSound) (count : Nat) :
    parse (manifest.paddedText count) = .ok manifest := by
  have spells := spellsOnce_entries_append manifest
    (KeyedList.ofList_perm (keys_requirements_nodup manifest.requires))
    (KeyedList.ofList_perm (keys_entries_nodup manifest _)) _
    (JsonReader.skipSeparators_blanks count)
  rw [paddedText, toJson_eq]
  exact (parse_eq_ok_iff spells).mpr ⟨isStatedBy_entries manifest, sound⟩

theorem le_length_encode_paddedText (manifest : Manifest) (count : Nat) :
    count ≤ (encode (manifest.paddedText count)).length := by
  have letters : (manifest.paddedText count).toList.length =
      manifest.toJson.compact.toList.length + count := by
    simp [paddedText]
  have enough := length_le_length_encode (manifest.paddedText count)
  omega

end Manifest

/-- A view with a single bundle, of which only the manifest is given. -/
def FileView.singleBundle (bytes : List UInt8) : FileView :=
  ⟨.directory [("b", .directory [(manifestFileName, .file bytes)])], "/"⟩

theorem FileView.singleBundle_reads (bytes : List UInt8) :
    (singleBundle bytes).isDirectory "/b" = true ∧
      (singleBundle bytes).readBytes (Path.join "/b" manifestFileName) = .ok bytes := by
  have pieces : Path.pieces (Path.join "/" "/b") = ["", "b"] := by decide
  have there : (singleBundle bytes).find "/b" =
      .ok (.directory [(manifestFileName, .file bytes)]) := by
    simp [singleBundle, find, FileTree.find, FileTree.locate, pieces, FileTree.follow,
      FileTree.descend?, KeyedList.contains, KeyedList.get?, Except.map]
  have inside := find_join there PluginBundle.isName_manifestFileName
  constructor
  · rw [isDirectory, there]
  · rw [readBytes, inside]
    simp [KeyedList.get?]

/-- A manifest of an implementation that the host has. -/
def Manifest.plain : Manifest :=
  ⟨"sample", "0.1.0", "1.0.0", coreTextKey, [], ⟨none, none⟩, none, none⟩

theorem Manifest.isSound_plain : plain.IsSound := by
  have passes : plain.check = .ok plain := by decide +kernel
  exact (check_eq_ok_iff.mp passes).2

namespace HostSettings

theorem checksAsLoaded_plain :
    (FileView.singleBundle (encode (Manifest.plain.paddedText 0))).isDirectory "/b" = true ∧
      (FileView.singleBundle (encode (Manifest.plain.paddedText 0))).readBytes
        (Path.join "/b" manifestFileName) = .ok (encode (Manifest.plain.paddedText 0)) ∧
      ChecksAsLoaded {} (FileView.singleBundle (encode (Manifest.plain.paddedText 0))) "/b"
        (encode (Manifest.plain.paddedText 0)) := by
  obtain ⟨isDirectory, found⟩ :=
    FileView.singleBundle_reads (encode (Manifest.plain.paddedText 0))
  exact ⟨isDirectory, found, checksAsLoaded {} isDirectory found⟩

/-- With enough blanks behind it a manifest is reported from its file, but not from its
directory. -/
theorem not_checkManifest_agree_paddedText :
    ∃ bytes, (FileView.singleBundle bytes).isDirectory "/b" = true ∧
      (FileView.singleBundle bytes).isFile (Path.join "/b" manifestFileName) = true ∧
      (({} : HostSettings).checkManifest (FileView.singleBundle bytes) "/b").toOption ≠
        (({} : HostSettings).checkManifest (FileView.singleBundle bytes)
          (Path.join "/b" manifestFileName)).toOption := by
  let bytes := encode (Manifest.plain.paddedText (maxManifestSize + 1))
  obtain ⟨isDirectory, found⟩ := FileView.singleBundle_reads bytes
  refine ⟨bytes, isDirectory, FileView.isFile_of_readBytes found, ?_⟩
  intro agree
  have large : maxManifestSize < bytes.length :=
    Manifest.le_length_encode_paddedText Manifest.plain (maxManifestSize + 1)
  have reads : manifestOf? bytes = some Manifest.plain := by
    rw [manifestOf?, decodeText?_encode, Option.bind_some,
      Manifest.parse_paddedText Manifest.isSound_plain]
    rfl
  have nothing := (({} : HostSettings).checkManifest_agree_iff isDirectory found).mp agree large
  cases reads.symm.trans nothing

end HostSettings

end PluginHost
