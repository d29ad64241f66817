/-
This file opens the archive that the settings ask for.

An archive in memory is always new. One on disk needs a path, and a folder there,
which is made with those on the way to it; an archive that was kept in the folder
is opened again. Either gets the default categories it does not have.
-/

import AccessFeed.Files.Tree
import AccessFeed.Settings.Basic

namespace AccessFeed.Archive

open Calendar (Instant)

/-- What stands on the disk where archives are opened: plain files and folders, and the archives
that were kept, all by their paths. -/
structure Disk where
  plainFiles : List String
  folders : List String := []
  kept : List (String × Archive) := []
deriving Repr

namespace Disk

/-- The folder inside the folder of an archive. -/
def innerFolder : String := "blobs"

/-- The plain files inside the folder of an archive. -/
def innerFiles : List String := ["conf", "db"]

/-- A path inside the folder at a path. -/
def inside (path name : String) : String :=
  if path = "" then name else path ++ "/" ++ name

/-- The files and folders on the disk. -/
def tree (disk : Disk) : Files.Tree :=
  let archives := disk.kept.map Prod.fst
  .ofPaths (disk.plainFiles ++ archives.flatMap fun path => innerFiles.map (inside path))
    (disk.folders ++ archives.map (inside · innerFolder))

/-- The archive at a place: the one that was kept there, or a new one. -/
def archiveAt (disk : Disk) (place : Files.Place) : Archive :=
  match disk.kept.find? fun entry => Files.placeOf entry.1 == place with
  | some (_, archive) => archive.reopened .disk
  | none => .empty .disk

/-- The place of an archive at a path, its folder being made if need be. -/
def settle (disk : Disk) (path : String) : Except Files.Obstacle Files.Place := do
  let tree ← disk.tree.withFolder (inside path innerFolder)
  tree.find path

end Disk

/-- The archive on disk at a path that may be missing. -/
def openPath (disk : Disk) : Option String → Except Failure Archive
  | none => .error (.configuration "Sled backend requires 'path' configuration")
  | some path =>
    match disk.settle path with
    | .ok place => .ok (disk.archiveAt place)
    | .error obstacle =>
      .error (.database ("Failed to open Sled database: IO error: " ++ obstacle.message))

/-- The archive for a backend, before it is seeded. -/
def openBackend (disk : Disk) (storage : Settings.Storage) : Except Failure Archive :=
  match storage.backend with
  | .memory => .ok (.empty .memory)
  | .disk => openPath disk storage.path

/-- Opens the archive that the settings ask for and seeds its categories. -/
def openFor (disk : Disk) (storage : Settings.Storage) (now : Instant) :
    Except Failure Archive := do
  let archive ← openBackend disk storage
  match archive.seed now with
  | (.ok _, archive) => .ok archive
  | (.error failure, _) => .error failure

end AccessFeed.Archive
