import MeshProxy.Identity.Bundle
import MeshProxy.Log.Record
import MeshProxy.Settings.Basic
import MeshProxy.Stream.Fault

/-!
# Where the certificate bundle comes from

The bundle is given inline as a whole, or it lies in a directory as three files, or there is none. An inline
bundle wins, and then the directory is not looked at. A directory that lacks a file gives nothing, and the
first file that cannot be read is reported. One record says in the end whether a bundle was found.
-/

namespace MeshProxy.Identity

/-- What reading a file by its path yields. -/
abbrev Files := String → Except IoFault Bytes

/-- A file that cannot be read. -/
structure Unreadable where
  path : String
  cause : IoFault
deriving DecidableEq, Repr

def Unreadable.message (u : Unreadable) : String := "failed to read " ++ u.path

inductive Event where
  | loadedInline
  | loadedFrom (directory : String)
  | unreadable (directory : String) (file : Unreadable)
  | disabled
deriving DecidableEq, Repr

def Event.record : Event → Log.Record
  | .loadedInline =>
    { level := .info, target := "sidecar::certs", message := "mesh certificates loaded"
      fields := [("source", .text "environment")] }
  | .loadedFrom directory =>
    { level := .info, target := "sidecar::certs", message := "mesh certificates loaded"
      fields := [("source", .text "directory"), ("dir", .text directory)] }
  | .unreadable directory file =>
    { level := .warn, target := "sidecar::certs", message := "unable to read mesh certificates"
      fields := [("dir", .text directory), ("error", .text file.message)] }
  | .disabled =>
    { level := .info, target := "sidecar::certs"
      message := "no mesh certificates found; external TLS disabled" }

/-- The path of a file in a directory. -/
def pathIn (directory name : String) : String :=
  if directory.toList.getLast? = some '/' then directory ++ name else directory ++ "/" ++ name

def readFile (files : Files) (directory name : String) : Except Unreadable Bytes :=
  match files (pathIn directory name) with
  | .ok bytes => .ok bytes
  | .error cause => .error ⟨pathIn directory name, cause⟩

/-- The names of the three files of a bundle. -/
def caFile : String := "ca.crt"
def certFile : String := "cert.crt"
def keyFile : String := "key.crt"

/-- The bundle in a directory, or the first of its files that cannot be read. -/
def ofDirectory (files : Files) (directory : String) : Except Unreadable Bundle := do
  return {
    ca := ← readFile files directory caFile
    cert := ← readFile files directory certFile
    key := ← readFile files directory keyFile }

/-- The paths that a search for the bundle may read. -/
def paths (s : Settings) : List String :=
  match s.certDir? with
  | none => []
  | some directory => [caFile, certFile, keyFile].map (pathIn directory)

/-- Looks for the bundle, and reports what was found. -/
def load (files : Files) (s : Settings) : Option Bundle × List Event :=
  match s.inlineCertificates? with
  | some (ca, cert, key) => (some ⟨bytesOf ca, bytesOf cert, bytesOf key⟩, [.loadedInline])
  | none =>
    match s.certDir? with
    | none => (none, [.disabled])
    | some directory =>
      match ofDirectory files directory with
      | .ok bundle => (some bundle, [.loadedFrom directory])
      | .error file => (none, [.unreadable directory file, .disabled])

end MeshProxy.Identity
