import EnvInline.Access
import EnvInline.Candidates

/-!
# Fingerprints

A fingerprint says of each of the candidates, by its path from the root, when it was changed. It is
stale as soon as one of these files is found with another time, or is there while it was not, or
the other way round. Times are whole milliseconds since the epoch in 64 bits; a file from before it,
or from too long after it, counts as missing.
-/

namespace EnvInline

/-- A file with the time of its last change in milliseconds. -/
structure Stamp where
  path : Path
  modified : Option Nat
deriving DecidableEq, Repr

namespace Stamp

/-- The milliseconds of a time in microseconds, if they are a number of 64 bits. -/
def milliseconds? (time : Int) : Option Nat :=
  if 0 ≤ time ∧ time.toNat / 1000 < UInt64.size then some (time.toNat / 1000) else none

/-- The path from the root, or the path itself if it has none. -/
def fullPath (cwd p : Path) : Path := (Path.absolute? cwd p).getD p

/-- The stamp of a file. -/
def capture (cwd p : Path) : Access Stamp := do
  let full := fullPath cwd p
  let time ← Access.stat? full
  return ⟨full, time.bind milliseconds?⟩

/-- Two stamps are of the same file and the same time. -/
def same (s t : Stamp) : Bool := s.path.same t.path && s.modified == t.modified

end Stamp

/-- The stamps of the candidates. -/
structure Fingerprint where
  stamps : List Stamp
deriving DecidableEq, Repr

namespace Fingerprint

/-- The stamps of some files. -/
def captureAll (cwd : Path) : List Path → Access (List Stamp)
  | [] => return []
  | p :: ps => do
    let s ← Stamp.capture cwd p
    let ss ← captureAll cwd ps
    return s :: ss

/-- The fingerprint of some candidates. -/
def capture (cwd : Path) (files : Candidates) : Access Fingerprint := do
  return ⟨← captureAll cwd files.toList⟩

/-- The paths of the files. -/
def dependencies (f : Fingerprint) : List Path := f.stamps.map Stamp.path

/-- Two fingerprints are of the same files and the same times. -/
def same (f g : Fingerprint) : Bool :=
  f.stamps.length == g.stamps.length && (f.stamps.zip g.stamps).all fun p => p.1.same p.2

/-- The text that a fingerprint's key is taken from. -/
def keyText (f : Fingerprint) : String :=
  String.join (f.stamps.map fun s =>
    String.join (s.path.components.map fun c => c.text ++ "\x00") ++ toString s.modified ++ "\x00")

/-- A number of 64 bits that fingerprints of the same files and times share. -/
def cacheKey (f : Fingerprint) : UInt64 :=
  f.keyText.toList.foldl (fun h c => (h ^^^ c.toNat.toUInt64) * 0x100000001B3) 0xCBF29CE484222325

/-- The key in sixteen hexadecimal digits. -/
def cacheKeyText (f : Fingerprint) : String :=
  let digits := Nat.toDigits 16 f.cacheKey.toNat
  String.ofList (List.replicate (16 - digits.length) '0' ++ digits)

/-- Whether one of the files has another stamp now. -/
def anyStale (cwd : Path) : List Stamp → Access Bool
  | [] => return false
  | s :: ss => do
    let now ← Stamp.capture cwd s.path
    if now.same s then anyStale cwd ss else return true

/-- Whether one of the files has changed. -/
def isStale (cwd : Path) (f : Fingerprint) : Access Bool := anyStale cwd f.stamps

end Fingerprint

end EnvInline
