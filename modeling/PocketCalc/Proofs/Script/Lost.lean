import PocketCalc.Proofs.Script.Unpacking

/-!
# Scripts that are lost

Whatever is wrong with a script file is a fault of the script, with two
exceptions, which concern archives only.

A script is lost if it was unpacked but its name does not lead to a file: this is
the fault of a file.  And taking an archive apart can go wrong in a way that is
not the one for damaged archives: this is a foreign fault.

The script of a zip archive is read if its name leads into the directory that it
is unpacked to.  Otherwise it is lost, or another file is read instead.
-/

namespace PocketCalc

namespace Script

/-- A library is the one by which an archive with a path is unpacked. -/
def UsesUnpacker
    (libraries : ArchiveLibraries)
    (path : Path)
    (unpacker : Unpacker) :
    Prop :=
  ∃ kind,
    format? path = some (.archive kind) ∧
      libraries.unpacker? kind = some unpacker

/-- An archive loses its script between unpacking and opening. -/
def LosesScript
    (host : Host)
    (store : Store)
    (path : Path)
    (bytes : List UInt8)
    (fault : FileFault) :
    Prop :=
  ∃ unpacker script nodes,
    UsesUnpacker host.libraries path unpacker ∧
      Finds unpacker bytes script ∧
        unpacker.unpack bytes script = .ok nodes ∧
          (store.holding host.temporary nodes).read
              (unpackedPath host.temporary script) =
            .error fault

/-- Taking an archive apart goes wrong, and not because it is damaged. -/
inductive GoesWrong
    (libraries : ArchiveLibraries)
    (path : Path)
    (bytes : List UInt8)
    (fault : ForeignFault) :
    Prop where
  | names
      {unpacker : Unpacker}
      (used : UsesUnpacker libraries path unpacker)
      (failed : unpacker.names bytes = .error (.foreign fault))
  | unpack
      {unpacker : Unpacker}
      {script : Text}
      (used : UsesUnpacker libraries path unpacker)
      (finds : Finds unpacker bytes script)
      (failed : unpacker.unpack bytes script = .error (.foreign fault))
  | members
      (promised : format? path = some (.archive .tarXz))
      (failed : libraries.tarMembers bytes = .error (.foreign fault))
  | content
      {members : List TarMember}
      {script : TarMember}
      (promised : format? path = some (.archive .tarXz))
      (listed : libraries.tarMembers bytes = .ok members)
      (found :
        members.find? (fun member =>
            member.isFile && isScriptName member.name) =
          some script)
      (failed : script.content = .error (.foreign fault))

/--
What is read of an archive that is unpacked depends on where the name of its
script leads.  Of a zip archive the script is read if the name leads into the
directory that it is unpacked to, and no file in that directory otherwise.
-/
structure ReadsByName
    (host : Host)
    (store : Store)
    (path : Path)
    (bytes : List UInt8) :
    Prop where
  /-- A script that is unpacked to where its name leads is read. -/
  unpacked :
    ∀ unpacker script content,
      UsesUnpacker host.libraries path unpacker →
        Finds unpacker bytes script →
          unpacker.unpack bytes script =
              .ok [((Path.ofText script).names, .file content)] →
            LeadsInto host.temporary script →
              readContent host store path bytes = decodeLines content
  zip :
    ∀ script content,
      format? path = some (.archive .zip) →
        Finds host.libraries.zip bytes script →
          host.libraries.zipContent bytes script = .ok content →
            LeadsInto host.temporary script →
              readContent host store path bytes = decodeLines content
  /-- The script is lost, or a file is read that was there before. -/
  zipAstray :
    ∀ script content,
      format? path = some (.archive .zip) →
        Finds host.libraries.zip bytes script →
          host.libraries.zipContent bytes script = .ok content →
            ¬LeadsInto host.temporary script →
              (∃ fault, LosesScript host store path bytes fault) ∨
                ∃ place other,
                  ¬host.temporary <+: place ∧
                    store.find? place = some (.file other) ∧
                      readContent host store path bytes = decodeLines other

/-! ## Faults of decoding and of archives -/

/-- Reading has faults of the script only. -/
def FailsAsScript (read : Except ReadFault Text) : Prop :=
  ∀ fault, read = .error fault → ∃ reason, fault = .script reason

section Faults

variable
  {read : Except ReadFault Text}
  {bytes : List UInt8}
  {archive : Text}
  {archiveFault : ArchiveFault}

theorem FailsAsScript.ne_file
    (fails : FailsAsScript read)
    (fileFault : FileFault) :
    read ≠ .error (.file fileFault) := by
  intro failed
  rcases fails _ failed with ⟨reason, same⟩
  cases same

theorem FailsAsScript.ne_foreign
    (fails : FailsAsScript read)
    (foreign : ForeignFault) :
    read ≠ .error (.foreign foreign) := by
  intro failed
  rcases fails _ failed with ⟨reason, same⟩
  cases same

theorem failsAsScript_decode (bytes : List UInt8) :
    FailsAsScript (decode bytes) := by
  intro fault failed
  rw [decode] at failed
  split at failed
  · cases failed
  · cases failed
    exact ⟨_, rfl⟩

theorem failsAsScript_decodeLines (bytes : List UInt8) :
    FailsAsScript (decodeLines bytes) := by
  intro fault failed
  rw [decodeLines] at failed
  cases decoded : decode bytes with
  | ok text =>
      rw [decoded] at failed
      cases failed
  | error other =>
      rw [decoded] at failed
      cases failed
      exact failsAsScript_decode bytes fault decoded

theorem ofArchive_ne_file (fileFault : FileFault) :
    ReadFault.ofArchive archive archiveFault ≠ .file fileFault := by
  cases archiveFault <;> simp [ReadFault.ofArchive]

theorem ofArchive_eq_foreign_iff {foreign : ForeignFault} :
    ReadFault.ofArchive archive archiveFault = .foreign foreign ↔
      archiveFault = .foreign foreign := by
  cases archiveFault <;> simp [ReadFault.ofArchive]

end Faults

section Archives

variable
  {host : Host}
  {store : Store}
  {path : Path}
  {archive script : Text}
  {kind : ArchiveKind}
  {unpacker : Unpacker}
  {bytes : List UInt8}
  {names : List Text}
  {nodes : List (Place × Node)}
  {fileFault : FileFault}
  {foreign : ForeignFault}

/-! ## Archives that are unpacked -/

theorem finds_iff (named : unpacker.names bytes = .ok names) :
    Finds unpacker bytes script ↔ names.find? isScriptName = some script := by
  rw [Finds, named]
  simp

theorem not_finds_of_failed
    {fault : ArchiveFault}
    (failed : unpacker.names bytes = .error fault) :
    ¬Finds unpacker bytes script := by
  rintro ⟨names, named, _⟩
  rw [failed] at named
  cases named

theorem readUnpacked_eq_file_iff :
    readUnpacked store host.temporary nodes script =
        .error (.file fileFault) ↔
      (store.holding host.temporary nodes).read
          (unpackedPath host.temporary script) =
        .error fileFault := by
  rw [readUnpacked]
  split
  · rename_i fault missed
    simp [missed]
  · rename_i content opened
    simp [opened, (failsAsScript_decodeLines content).ne_file]

theorem readUnpacked_ne_foreign :
    readUnpacked store host.temporary nodes script ≠
      .error (.foreign foreign) := by
  rw [readUnpacked]
  split
  · simp
  · rename_i content _
    exact (failsAsScript_decodeLines content).ne_foreign foreign

theorem readUnpacking_eq_file_iff :
    readUnpacking host store archive kind unpacker bytes =
        .error (.file fileFault) ↔
      ∃ script nodes,
        Finds unpacker bytes script ∧
          unpacker.unpack bytes script = .ok nodes ∧
            (store.holding host.temporary nodes).read
                (unpackedPath host.temporary script) =
              .error fileFault := by
  rw [readUnpacking]
  split
  · rename_i fault failed
    simp [ofArchive_ne_file, not_finds_of_failed failed]
  · rename_i names named
    simp only [finds_iff named]
    split
    · rename_i absent
      simp [absent]
    · rename_i script found
      simp only [found, Option.some.injEq, exists_and_left,
        exists_eq_left']
      split
      · rename_i fault failed
        simp [failed, ofArchive_ne_file]
      · rename_i nodes unpacked
        simp [unpacked, readUnpacked_eq_file_iff]

theorem readUnpacking_eq_foreign_iff :
    readUnpacking host store archive kind unpacker bytes =
        .error (.foreign foreign) ↔
      unpacker.names bytes = .error (.foreign foreign) ∨
        ∃ script,
          Finds unpacker bytes script ∧
            unpacker.unpack bytes script = .error (.foreign foreign) := by
  rw [readUnpacking]
  split
  · rename_i fault failed
    simp [failed, ofArchive_eq_foreign_iff, not_finds_of_failed failed]
  · rename_i names named
    simp only [named, finds_iff named]
    split
    · rename_i absent
      simp [absent]
    · rename_i script found
      simp only [found, Option.some.injEq, reduceCtorEq, false_or,
        exists_eq_left']
      split
      · rename_i fault failed
        simp [failed, ofArchive_eq_foreign_iff]
      · rename_i nodes unpacked
        simp [unpacked, readUnpacked_ne_foreign]

/-! ## Archives that are read in place -/

theorem readTar_ne_file :
    readTar host archive bytes ≠ .error (.file fileFault) := by
  rw [readTar]
  split
  · simp [ofArchive_ne_file]
  · split
    · simp
    · split
      · simp [ofArchive_ne_file]
      · rename_i content _
        exact (failsAsScript_decode content).ne_file fileFault

theorem readTar_eq_foreign_iff :
    readTar host archive bytes = .error (.foreign foreign) ↔
      host.libraries.tarMembers bytes = .error (.foreign foreign) ∨
        ∃ members script,
          host.libraries.tarMembers bytes = .ok members ∧
            members.find? (fun member =>
                member.isFile && isScriptName member.name) =
              some script ∧
              script.content = .error (.foreign foreign) := by
  rw [readTar]
  split
  · rename_i fault failed
    simp [failed, ofArchive_eq_foreign_iff]
  · rename_i members listed
    simp only [listed, Except.ok.injEq, reduceCtorEq, false_or,
      exists_and_left, exists_eq_left']
    split
    · rename_i absent
      simp [absent]
    · rename_i script found
      simp only [found, Option.some.injEq, exists_eq_left']
      split
      · rename_i fault failed
        simp [failed, ofArchive_eq_foreign_iff]
      · rename_i content inPlace
        simp [inPlace, (failsAsScript_decode content).ne_foreign]

/-! ## Script files -/

theorem usesUnpacker_iff
    {libraries : ArchiveLibraries}
    (promised : format? path = some (.archive kind)) :
    UsesUnpacker libraries path unpacker ↔
      libraries.unpacker? kind = some unpacker := by
  rw [UsesUnpacker, promised]
  simp

/-- Files that are no archives have faults of the script only. -/
theorem failsAsScript_readContent
    (plain : ∀ kind, format? path ≠ some (.archive kind)) :
    FailsAsScript (readContent host store path bytes) := by
  intro fault failed
  rw [readContent] at failed
  split at failed
  · cases failed
    exact ⟨_, rfl⟩
  · exact failsAsScript_decodeLines bytes fault failed
  · rename_i kind promised
    exact absurd promised (plain kind)

/-- Reading a script ends with the fault of a file exactly if it is lost. -/
theorem readContent_eq_file_iff :
    readContent host store path bytes = .error (.file fileFault) ↔
      LosesScript host store path bytes fileFault := by
  by_cases archived : ∃ kind, format? path = some (.archive kind)
  · rcases archived with ⟨kind, promised⟩
    rw [readContent_archive promised, readArchive]
    simp only [LosesScript, usesUnpacker_iff promised]
    cases unpacks : host.libraries.unpacker? kind with
    | none => simp [readTar_ne_file]
    | some unpacker => simp [readUnpacking_eq_file_iff]
  · rw [not_exists] at archived
    apply iff_of_false ((failsAsScript_readContent archived).ne_file fileFault)
    rintro ⟨unpacker, script, nodes, ⟨kind, promised, _⟩, _⟩
    exact absurd promised (archived kind)

/-- Reading a script ends with a foreign fault exactly if its archive goes wrong. -/
theorem readContent_eq_foreign_iff :
    readContent host store path bytes = .error (.foreign foreign) ↔
      GoesWrong host.libraries path bytes foreign := by
  constructor
  · intro failed
    by_cases archived : ∃ kind, format? path = some (.archive kind)
    · rcases archived with ⟨kind, promised⟩
      rw [readContent_archive promised, readArchive] at failed
      cases unpacks : host.libraries.unpacker? kind with
      | none =>
          rw [unpacker?_eq_none_iff] at unpacks
          subst unpacks
          rcases readTar_eq_foreign_iff.mp failed with
            members | ⟨members, script, listed, found, content⟩
          · exact .members promised members
          · exact .content promised listed found content
      | some unpacker =>
          have used : UsesUnpacker host.libraries path unpacker :=
            ⟨kind, promised, unpacks⟩
          rw [unpacks] at failed
          rcases readUnpacking_eq_foreign_iff.mp failed with
            names | ⟨script, finds, unpack⟩
          · exact .names used names
          · exact .unpack used finds unpack
    · rw [not_exists] at archived
      exact
        absurd failed ((failsAsScript_readContent archived).ne_foreign foreign)
  · have unpacking
        {unpacker : Unpacker}
        (used : UsesUnpacker host.libraries path unpacker)
        (wrong :
          unpacker.names bytes = .error (.foreign foreign) ∨
            ∃ script,
              Finds unpacker bytes script ∧
                unpacker.unpack bytes script = .error (.foreign foreign)) :
        readContent host store path bytes = .error (.foreign foreign) := by
      rcases used with ⟨kind, promised, unpacks⟩
      rw [readContent_archive promised, readArchive, unpacks]
      exact readUnpacking_eq_foreign_iff.mpr wrong
    have inPlace
        (promised : format? path = some (.archive .tarXz))
        (wrong : readTar host path.name bytes = .error (.foreign foreign)) :
        readContent host store path bytes = .error (.foreign foreign) := by
      rw [readContent_archive promised, readArchive]
      exact wrong
    intro wrong
    cases wrong with
    | names used failed => exact unpacking used (.inl failed)
    | unpack used finds failed => exact unpacking used (.inr ⟨_, finds, failed⟩)
    | members promised failed =>
        exact inPlace promised (readTar_eq_foreign_iff.mpr (.inl failed))
    | content promised listed found failed =>
        exact
          inPlace promised
            (readTar_eq_foreign_iff.mpr
              (.inr ⟨_, _, listed, found, failed⟩))

/-! ## Names of scripts -/

theorem readContent_of_unpacked
    (used : UsesUnpacker host.libraries path unpacker)
    (finds : Finds unpacker bytes script)
    (unpacked : unpacker.unpack bytes script = .ok nodes) :
    readContent host store path bytes =
      readUnpacked store host.temporary nodes script := by
  rcases used with ⟨kind, promised, unpacks⟩
  rw [readContent_archive promised]
  exact readArchive_of_unpacked unpacks finds unpacked

theorem unpack_zip
    {libraries : ArchiveLibraries}
    {content : List UInt8}
    (unpacked : libraries.zipContent bytes script = .ok content) :
    libraries.zip.unpack bytes script =
      .ok [(ArchiveLibraries.zipPlace script, .file content)] := by
  dsimp only [ArchiveLibraries.zip]
  rw [unpacked]
  rfl

theorem readsByName (fresh : store.Fresh host.temporary) :
    ReadsByName host store path bytes := by
  constructor
  case unpacked =>
    intro unpacker script content used finds unpacked leads
    rw [readContent_of_unpacked used finds unpacked]
    exact leads.readUnpacked fresh
  case zip =>
    intro script content promised finds unpacked leads
    rw [readContent_of_unpacked ⟨.zip, promised, rfl⟩ finds (unpack_zip unpacked),
      zipPlace_of_forward leads.forward]
    exact leads.readUnpacked fresh
  case zipAstray =>
    intro script content promised finds unpacked astray
    have used : UsesUnpacker host.libraries path host.libraries.zip :=
      ⟨.zip, promised, rfl⟩
    have nodes := unpack_zip unpacked
    cases opened :
        (store.holding host.temporary
            [(ArchiveLibraries.zipPlace script, .file content)]).read
          (unpackedPath host.temporary script) with
    | error fault =>
        left
        exact
          ⟨fault, host.libraries.zip, script, _, used, finds, nodes, opened⟩
    | ok other =>
        right
        rcases exists_other_of_read_zip fresh astray opened with
          ⟨place, outside, standing⟩
        refine ⟨place, other, outside, standing, ?_⟩
        rw [readContent_of_unpacked used finds nodes, readUnpacked, opened]

end Archives

end Script

end PocketCalc
