import ElfInspect.Bytes.Image
import ElfInspect.Text.Quoted

/-!
# Identity of an image

The first sixteen bytes of an ELF file name its format and fix the two parameters of everything
that follows: the address class and the byte order.
-/

namespace ElfInspect

/-- Width of the addresses of a file. -/
inductive AddressClass where
  /-- Addresses of four bytes. -/
  | bits32
  /-- Addresses of eight bytes. -/
  | bits64
  deriving DecidableEq, Repr

namespace AddressClass

/-- The code of an address class in the identification block. -/
def code : AddressClass → Nat
  | bits32 => 1
  | bits64 => 2

/-- The address class with a given code. -/
def ofCode? (code : Int) : Option AddressClass :=
  if code = 1 then some bits32 else if code = 2 then some bits64 else none

/-- The number of bits of an address. -/
def bits : AddressClass → Nat
  | bits32 => 32
  | bits64 => 64

/-- The number of bytes of an address. -/
def bytes : AddressClass → Nat
  | bits32 => 4
  | bits64 => 8

theorem ofCode?_code (addressClass : AddressClass) :
    ofCode? addressClass.code = some addressClass := by
  cases addressClass <;> rfl

end AddressClass

/-- A reason for which a whole image cannot be decoded. -/
inductive Rejection where
  /-- The image ends inside the identification block. -/
  | shortIdentification (length : Nat)
  /-- The image does not start with the signature. -/
  | badMagic (found : List UInt8)
  /-- The address class has an unknown code. -/
  | unsupportedClass (code : Nat)
  /-- The byte order has an unknown code. -/
  | unsupportedEncoding (code : Nat)
  /-- The image ends inside the file header. -/
  | truncatedHeader (addressClass : AddressClass) (expected : Int) (length : Nat)
  deriving DecidableEq, Repr

/-- The message that tells why an image is rejected. -/
def Rejection.message : Rejection → String
  | shortIdentification length =>
      "file is " ++ toString length ++ " bytes, shorter than the 16-byte identification block"
  | badMagic found => "not an ELF file: magic is " ++ Quoted.bytes found
  | unsupportedClass code => "unsupported ELF class " ++ toString code
  | unsupportedEncoding code => "unsupported data encoding " ++ toString code
  | truncatedHeader addressClass expected length =>
      "ELF" ++ toString addressClass.bits ++ " header needs " ++ toString expected ++
        " bytes, file has " ++ toString length

/-- The decoded identification block. -/
structure Identity where
  addressClass : AddressClass
  byteOrder : ByteOrder
  abiVersion : Nat := 0
  version : Nat := 0
  osAbi : Nat := 0
  /-- The bytes of the block. -/
  ident : List UInt8 := []
  deriving DecidableEq, Repr

namespace Identity

/-- The bytes with which every ELF file starts. -/
def signature : List UInt8 := [0x7F, 0x45, 0x4C, 0x46]

/-- The size of the identification block. -/
def blockSize : Nat := 16

/-- The number at a place of the identification block. -/
def blockByte (block : List UInt8) (place : Nat) : Nat := (block.getD place 0).toNat

/-- The identity that an image declares. -/
def decode (image : Image) : Except Rejection Identity :=
  let block := image.slice 0 blockSize
  if block.length < blockSize then
    .error (.shortIdentification image.size)
  else if block.take 4 ≠ signature then
    .error (.badMagic (block.take 4))
  else
    match AddressClass.ofCode? (blockByte block 4), ByteOrder.ofCode? (blockByte block 5) with
    | none, _ => .error (.unsupportedClass (blockByte block 4))
    | some _, none => .error (.unsupportedEncoding (blockByte block 5))
    | some addressClass, some byteOrder =>
        .ok
          { addressClass := addressClass
            byteOrder := byteOrder
            abiVersion := blockByte block 8
            version := blockByte block 6
            osAbi := blockByte block 7
            ident := block }

end Identity
end ElfInspect
