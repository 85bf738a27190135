import Conformance.Host.FileTree

/-!
# Archives

A tree of files as a sequence of blocks of 512 octets: a header block for every entry, followed by
the blocks of its content. A block of zeros ends the archive.

The header holds the name, the mode and the size of the entry, its kind, and where a link leads.
Numbers are octal digits. A long name is cut at a slash, and its front stands apart.
-/

namespace Conformance
namespace Archive

/-- The size of a block. -/
def blockSize : Nat := 512

/-- A field of a header. -/
def field (block : Bytes) (start length : Nat) : Bytes :=
  ((block.drop start).take length).takeWhile (· != 0)

/-- The number that octal digits stand for. -/
def octal (digits : Bytes) : Nat :=
  (digits.filter fun b => 0x30 ≤ b && b ≤ 0x37).foldl (fun n b => n * 8 + (b.toNat - 0x30)) 0

/-- The path of an entry. -/
def path (block : Bytes) : Path :=
  let front := if field block 257 5 = [0x75, 0x73, 0x74, 0x61, 0x72] then field block 345 155 else []
  let name := field block 0 100
  if front.isEmpty then name else front ++ Path.slash :: name

/-- Whether an entry may be executed. -/
def isExecutable (block : Bytes) : Bool := octal (field block 100 8) / 64 % 2 = 1

/-- What an entry puts at its path. -/
def node? (block content : Bytes) : Option Node :=
  match (block.drop 156).head? with
  | some 0x30 | some 0 => some (.file content (isExecutable block))
  | some 0x32 => some (.link (field block 157 100))
  | some 0x35 => some .directory
  | some 0x36 => some .pipe
  | _ => none

/-- The number of blocks that a content takes. -/
def blocks (size : Nat) : Nat := (size + blockSize - 1) / blockSize

/-- The entries of an archive of at most `fuel` entries. -/
def entries : (fuel : Nat) → Bytes → List (Path × Node)
  | 0, _ => []
  | fuel + 1, data =>
    let block := data.take blockSize
    if block.length < blockSize || block.all (· = 0) then []
    else
      let size := octal (field block 124 12)
      let rest := data.drop blockSize
      let later := entries fuel (rest.drop (blocks size * blockSize))
      match node? block (rest.take size) with
      | some node => (path block, node) :: later
      | none => later

/-- A tree with the entries of an archive put into its working directory. -/
def unpack (t : FileTree) (data : Bytes) : FileTree :=
  (entries (data.length / blockSize) data).foldl (fun t (path, node) => t.install path node) t

end Archive
end Conformance
