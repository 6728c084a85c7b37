import LogSift.Unicode.CharSet

/-!
Simple case folding: characters that differ only in case stand in one orbit, and folding a set
adds to it every orbit that it meets.
-/

namespace LogSift.Unicode.Folding

/-- Reads orbits from numbers: how many characters beyond two the orbit has, how far its first
    character lies beyond that of the orbit before, and the steps from character to character. -/
def readOrbits (fuel start : Nat) (numbers : List Nat) : List (List Nat) :=
  match fuel, numbers with
  | fuel + 1, extra :: ahead :: rest =>
    let first := start + ahead
    let steps := rest.take (extra + 1)
    let orbit := steps.foldl (fun found step => (found.headD first + step) :: found) [first]
    orbit.reverse :: readOrbits fuel first (rest.drop (extra + 1))
  | _, _ => []

/-- The orbits of simple case folding, each with its characters in ascending order. -/
def orbits : List (List Nat) :=
  let numbers := CharSet.numbers
   [0x11049c4811481048104810481048104810481028aff4811481048104810481048104810481048104810481890,
   0x110481048104810481048102898e48114810481048104810481b0481bcf1bb148104810481048104810481048,
   0x101f94801eeff1048104810481048104810481048204810481048104810481048104810481048104810481048,
   0x12012013012012014012012012012012012012012012012012012012012012012012012012012012012012011,
   0x11301201201201201201201201201201201201201201201201201201201201201201201301201201201201201,
   0x1103a9103ab101c91039f1039d2011039b1039a1019f3011039d1039d2011039e201201103aa1038b30120120,
   0x13bb201201103b9103b9201103ba201303ba201103ba201201201103ae1028a103ad103ab101ab989102cb201,
   0x12012014013011311201201201201201201201201301201201201201201201201301131113111517830140110,
   0x102d8db1801201201201201201201201201401201201201201201201201201201201201201201201201201201,
   0x1501aad9f1a02d8be102d8bc102d8bf2012012012012011018f1018d301102d8ff102d8ff102d8d83011,
   0x12e01aacda501aad8b502cfcf1c02cffd501aad89102cfef101aad8c401aad8c101aacd8101aadcf301aad9b,
   0x107f107f20188204d104d104d204e701ec2028a1028a1028a5014012015b01e88d481ac2cf21aacaa101aacad,
   0x11013f216848112e481148104810482048106e48214b394812481048101884811481048103e481148101e98b1,
   0x1401201201201201201201201201201201201190183f01e8eb50481048101edbd4811481048101f4811481048,
   0x101a8101a8101a8101a8101a8101a8101a8101a8101a8101a8101a8101a8101a8101a8101a8101a8601301507,
   0x14811481048101c98c48114810481048104810481048104810481048101c99d481148101c99e48114810481,
   0x101201c8cc1211690481048104810481048101c8fc4811481048104810481048104810481011c98a48121c98a,
   0x1012012012012012012012012012012012012012012011a012012012012012012012012012012012012012012,
   0x101201201201201201201201201301201201201201201201101f2012012012012012012012012012012012012,
   0x12012012012012012012012012012012012012012012012012012012012012012012012012012012012012012,
   0x16810681068106810681068106810681068106810681068106810681068301201201201201201201201201201,
   0x16810681068106810681068106810681068106810681068106810681068106810681068106810681068106810,
   0x1101e9c8101e9c8101e9c8101e9c8101e9c8101e9c8101e9c8101e9c8101e9c8101e9c8101e9c85d9a06810,
   0x1101e9c8101e9c8101e9c8101e9c8101e9c8101e9c8101e9c8101e9c8101e9c8101e9c8101e9c8101e9c8,
   0x1101e9c8101e9c8101e9c8101e9c8101e9c8101e9c8101e9c8101e9c8101e9c8101e9c8101e9c8101e9c8,
   0x105f88105f88105f88105f88105f88105f88105f88105f88105f88301e9c8601e9c8201e9c8101e9c8101e9c8,
   0x1105f88105f88105f88105f88105f88105f88105f88105f88105f88105f88105f88105f88105f88105f881,
   0x15f88105f88105f88105f88105f88105f88105f88105f88105f88105f88105f88105f88105f88105f88105f88,
   0x11019bfa81019bfa81019bfa81019bfa81ac905f88105f88105f88305f88105f88105f88105f88105f8810,
   0x11019bfa81019bfa81019bfa81019bfa81019bfa81019bfa81019bfa81019bfa81019bfa81019bfa81019bfa8,
   0x11019bfa81019bfa81019bfa81019bfa81019bfa81019bfa81019bfa81019bfa81019bfa81019bfa81019bfa8,
   0x11019bfa81019bfa81019bfa81019bfa81019bfa81019bfa81019bfa81019bfa81019bfa81019bfa81019bfa8,
   0x11019bfa81019bfa81019bfa81019bfa81019bfa81019bfa81019bfa81019bfa81019bfa81019bfa81019bfa8,
   0x11019bfa81019bfa81019bfa81019bfa81019bfa81019bfa81019bfa81019bfa81019bfa81019bfa81019bfa8,
   0x11019bfa81019bfa81019bfa81019bfa81019bfa81019bfa81019bfa81019bfa81019bfa81019bfa81019bfa8,
   0x1101810181019bfa81019bfa81019bfa81019bfa81019bfa81019bfa81019bfa81019bfa81019bfa81019bfa8,
   0x12012012012012012012012012012011ea018d8f82907bce4018d88c3e80110118cf8a4aab118101810181018,
   0x11201201201201201201201201201201201201201201201201201201201201201201201201201201201201201,
   0x1201201201201201201201201201201201201201201201201201201201207a121120120120120120120120120,
   0x12012012012012012012012012012012012012012012012012012012012012012011c01201201201201201201,
   0x11810181018201201201201201201201201201201201201201201201201201201201201201201201201201201,
   0x101810181901810181018101810181018101810181b0181018101810181018101819018101810181018101810,
   0x110181018101810181018190182018201820181c0181018101810181018101819018101810181018101810181,
   0x11018301fe101fe101e8101e81028810288101cc101cc101ae101ae101ae101ae1019a1019a1901810181018,
   0x11810181018101810181018101819018101810181018101810181018101819018101810181018101810181018,
   0x102810281028102810281028102810285e03c4ff0191e07401810181f01810181d01928019201810181901810,
   0x1103a103a103a103a103a103a103a103a103a103a103a103a1ceb012c02810281028102810281028102810281,
   0x110681068106810681068106810683ce903a103a103a103a103a103a103a103a103a103a103a103a103a103a,
   0x11068106810681068106810681068106810681068106810681068106810681068106810681068106810681068,
   0x10120120170169068106810681068106810681068106810681068106810681068106810681068106810681068,
   0x1012012012012012012012012012012012012012012012012012012012012012012012012012012011b013017,
   0x112017cd9e0150120119012012012012012012012012012012012012012012012012012012012012012012012,
   0x112012012012012012012012012c0120120120120120120120120120120120120120120120120140120120120,
   0x12012012012012012012012012012012012012012012012014012012012012012012012980120120120120120,
   0x10120120120682012015015012012012012013012011b01201201201201201201201201201201201201201201,
   0x128bc0159ca8013b01201201601401301201501201201201201201201201101ec81b012012012012012012012,
   0x11048104810481048104810481048104810481048104810481048104810481048104810481048104810481048,
   0x1105810581058105810581058105810581058105810581058105810581058105810582b8e048104810481048,
   0x11058105810581058105810581058105810581058105810581058105810581058105810581058105810581058,
   0x15810581058105810581058105810581058105810581058105810581058105810581058105810581058299058,
   0x1104f104f104f104f104f104f2bd0581058105810581058105810581058105810581058105810581058105810,
   0x1104f104f204f104f104f104f104f104f104f104f104f104f104f104f104f104f104f204f104f104f104f104f,
   0x110188101881018810188101881018810188101881018810188101883bdb04f104f204f104f104f104f104f,
   0x11881018810188101881018810188101881018810188101881018810188101881018810188101881018810188,
   0x1101881018810188101881018810188101881018810188101881018810188101881018810188101881018810,
   0x11048104810481048104810481048104810481048104810481048104810482be018810188101881018810188,
   0x1104810481048104810481048104810481048104810481048104810485cfb048104810481048104810481048,
   0x11048104810485ae8904810481048104810481048104810481048104810481048104810481048104810481048,
   0x11048104810481048104810481048104810481048104810481048104810481048104810481048104810481048,
   0x1104a104a104a104a104a104a104a104a104a104a104a104a104a104a7dac9048104810481048104810481048,
   0x14a104a104a104a104a104a104a104a104a104a104a104a104a104a104a104a104a104a104a104a]
  readOrbits numbers.length 0 numbers

/-- A set together with every character that differs only in case from one of its own. -/
def fold (s : CharSet) : CharSet :=
  let met := orbits.filter fun orbit => orbit.any s.containsNat
  if met.isEmpty then s else s.union (.ofRanges (met.flatten.map fun n => (n, n)))

/-- The characters that differ from a character only in case, itself included. -/
def foldChar (c : Char) : CharSet :=
  match orbits.find? (·.contains c.toNat) with
  | none => .singleton c
  | some orbit => .ofRanges (orbit.map fun n => (n, n))

end LogSift.Unicode.Folding
