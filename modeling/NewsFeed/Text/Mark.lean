/-
Marks: characters that combine with the one before them.

Each mark has a class. Marks of different classes can be swapped without a change of meaning, marks
of class 0 stay where they are. Some marks are spacing: they are written beside their letter and not
above or below it.
-/
import NewsFeed.Text.Table

namespace NewsFeed.Text

/-- The marks that host names can hold, with their classes in hexadecimal digits. A tilde in front
of the class tells the spacing ones. -/
def markTable : List String := [
  "300-314:e6 315:e8 316-319:dc 31a:e8 31b:d8 31c-320:dc 321-322:ca 323-326:dc 327-328:ca",
  "329-333:dc 334-338:1 339-33c:dc 33d-33f:e6 342:e6 346:e6 347-349:dc 34a-34c:e6 34d-34e:dc",
  "350-352:e6 353-356:dc 357:e6 358:e8 359-35a:dc 35b:e6 35c:e9 35d-35e:ea 35f:e9 360-361:ea",
  "362:e9 363-36f:e6 483-487:e6 488-489:0 591:dc 592-595:e6 596:dc 597-599:e6 59a:de 59b:dc",
  "59c-5a1:e6 5a2-5a7:dc 5a8-5a9:e6 5aa:dc 5ab-5ac:e6 5ad:de 5ae:e4 5af:e6 5b0:a 5b1:b 5b2:c 5b3:d",
  "5b4:e 5b5:f 5b6:10 5b7:11 5b8:12 5b9-5ba:13 5bb:14 5bc:15 5bd:16 5bf:17 5c1:18 5c2:19 5c4:e6",
  "5c5:dc 5c7:12 610-617:e6 618:1e 619:1f 61a:20 64b:1b 64c:1c 64d:1d 64e:1e 64f:1f 650:20 651:21",
  "652:22 653-654:e6 655-656:dc 657-65b:e6 65c:dc 65d-65e:e6 65f:dc 670:23 6d6-6dc:e6 6df-6e2:e6",
  "6e3:dc 6e4:e6 6e7-6e8:e6 6ea:dc 6eb-6ec:e6 6ed:dc 711:24 730:e6 731:dc 732-733:e6 734:dc",
  "735-736:e6 737-739:dc 73a:e6 73b-73c:dc 73d:e6 73e:dc 73f-741:e6 742:dc 743:e6 744:dc 745:e6",
  "746:dc 747:e6 748:dc 749-74a:e6 7a6-7b0:0 7eb-7f1:e6 7f2:dc 7f3:e6 7fd:dc 816-819:e6 81b-823:e6",
  "825-827:e6 829-82d:e6 859-85b:dc 897-898:e6 899-89b:dc 89c-89f:e6 8ca-8ce:e6 8cf-8d3:dc",
  "8d4-8e1:e6 8e3:dc 8e4-8e5:e6 8e6:dc 8e7-8e8:e6 8e9:dc 8ea-8ec:e6 8ed-8ef:dc 8f0:1b 8f1:1c",
  "8f2:1d 8f3-8f5:e6 8f6:dc 8f7-8f8:e6 8f9-8fa:dc 8fb-8ff:e6 900-902:0 903~0 93a:0 93b~0 93c:7",
  "93e-940~0 941-948:0 949-94c~0 94d:9 94e-94f~0 951:e6 952:dc 953-954:e6 955-957:0 962-963:0",
  "981:0 982-983~0 9bc:7 9be-9c0~0 9c1-9c4:0 9c7-9c8~0 9cb-9cc~0 9cd:9 9d7~0 9e2-9e3:0 9fe:e6",
  "a01-a02:0 a03~0 a3c:7 a3e-a40~0 a41-a42:0 a47-a48:0 a4b-a4c:0 a4d:9 a51:0 a70-a71:0 a75:0",
  "a81-a82:0 a83~0 abc:7 abe-ac0~0 ac1-ac5:0 ac7-ac8:0 ac9~0 acb-acc~0 acd:9 ae2-ae3:0 afa-aff:0",
  "b01:0 b02-b03~0 b3c:7 b3e~0 b3f:0 b40~0 b41-b44:0 b47-b48~0 b4b-b4c~0 b4d:9 b55-b56:0 b57~0",
  "b62-b63:0 b82:0 bbe-bbf~0 bc0:0 bc1-bc2~0 bc6-bc8~0 bca-bcc~0 bcd:9 bd7~0 c00:0 c01-c03~0 c04:0",
  "c3c:7 c3e-c40:0 c41-c44~0 c46-c48:0 c4a-c4c:0 c4d:9 c55:54 c56:5b c62-c63:0 c81:0 c82-c83~0",
  "cbc:7 cbe~0 cbf:0 cc0-cc4~0 cc6:0 cc7-cc8~0 cca-ccb~0 ccc:0 ccd:9 cd5-cd6~0 ce2-ce3:0 cf3~0",
  "d00-d01:0 d02-d03~0 d3b-d3c:9 d3e-d40~0 d41-d44:0 d46-d48~0 d4a-d4c~0 d4d:9 d57~0 d62-d63:0",
  "d81:0 d82-d83~0 dca:9 dcf-dd1~0 dd2-dd4:0 dd6:0 dd8-ddf~0 df2-df3~0 e31:0 e34-e37:0 e38-e39:67",
  "e3a:9 e47:0 e48-e4b:6b e4c-e4e:0 eb1:0 eb4-eb7:0 eb8-eb9:76 eba:9 ebb-ebc:0 ec8-ecb:7a",
  "ecc-ece:0 f18-f19:dc f35:dc f37:dc f39:d8 f3e-f3f~0 f71:81 f72:82 f74:84 f7a-f7d:82 f7e:0 f7f~0",
  "f80:82 f82-f83:e6 f84:9 f86-f87:e6 f8d-f92:0 f94-f97:0 f99-f9c:0 f9e-fa1:0 fa3-fa6:0 fa8-fab:0",
  "fad-fb8:0 fba-fbc:0 fc6:dc 102b-102c~0 102d-1030:0 1031~0 1032-1036:0 1037:7 1038~0 1039-103a:9",
  "103b-103c~0 103d-103e:0 1056-1057~0 1058-1059:0 105e-1060:0 1062-1064~0 1067-106d~0 1071-1074:0",
  "1082:0 1083-1084~0 1085-1086:0 1087-108c~0 108d:dc 108f~0 109a-109c~0 109d:0 135d-135f:e6",
  "1712-1713:0 1714:9 1715~9 1732-1733:0 1734~9 1752-1753:0 1772-1773:0 17b6~0 17b7-17bd:0",
  "17be-17c5~0 17c6:0 17c7-17c8~0 17c9-17d1:0 17d2:9 17d3:0 17dd:e6 1885-1886:0 18a9:e4",
  "1920-1922:0 1923-1926~0 1927-1928:0 1929-192b~0 1930-1931~0 1932:0 1933-1938~0 1939:de 193a:e6",
  "193b:dc 1a17:e6 1a18:dc 1a19-1a1a~0 1a1b:0 1a55~0 1a56:0 1a57~0 1a58-1a5e:0 1a60:9 1a61~0",
  "1a62:0 1a63-1a64~0 1a65-1a6c:0 1a6d-1a72~0 1a73-1a74:0 1a75-1a7c:e6 1a7f:dc 1ab0-1ab4:e6",
  "1ab5-1aba:dc 1abb-1abc:e6 1abd:dc 1abe:0 1abf-1ac0:dc 1ac1-1ac2:e6 1ac3-1ac4:dc 1ac5-1ac9:e6",
  "1aca:dc 1acb-1adc:e6 1add:dc 1ade:e6 1ae0-1ae5:e6 1ae6:dc 1ae7-1aea:e6 1aeb:ea 1b00-1b03:0",
  "1b04~0 1b34:7 1b35~0 1b36-1b3a:0 1b3b~0 1b3c:0 1b3d-1b41~0 1b42:0 1b43~0 1b44~9 1b6b:e6 1b6c:dc",
  "1b6d-1b73:e6 1b80-1b81:0 1b82~0 1ba1~0 1ba2-1ba5:0 1ba6-1ba7~0 1ba8-1ba9:0 1baa~9 1bab:9",
  "1bac-1bad:0 1be6:7 1be7~0 1be8-1be9:0 1bea-1bec~0 1bed:0 1bee~0 1bef-1bf1:0 1bf2-1bf3~9",
  "1c24-1c2b~0 1c2c-1c33:0 1c34-1c35~0 1c36:0 1c37:7 1cd0-1cd2:e6 1cd4:1 1cd5-1cd9:dc 1cda-1cdb:e6",
  "1cdc-1cdf:dc 1ce0:e6 1ce1~0 1ce2-1ce8:1 1ced:dc 1cf4:e6 1cf7~0 1cf8-1cf9:e6 1dc0-1dc1:e6",
  "1dc2:dc 1dc3-1dc9:e6 1dca:dc 1dcb-1dcc:e6 1dcd:ea 1dce:d6 1dcf:dc 1dd0:ca 1dd1-1df5:e6 1df6:e8",
  "1df7-1df8:e4 1df9:dc 1dfa:da 1dfb:e6 1dfc:e9 1dfd:dc 1dfe:e6 1dff:dc 20d0-20d1:e6 20d2-20d3:1",
  "20d4-20d7:e6 20d8-20da:1 20db-20dc:e6 20dd-20e0:0 20e1:e6 20e2-20e4:0 20e5-20e6:1 20e7:e6",
  "20e8:dc 20e9:e6 20ea-20eb:1 20ec-20ef:dc 20f0:e6 2cef-2cf1:e6 2d7f:9 2de0-2dff:e6 302a:da",
  "302b:e4 302c:e8 302d:de 302e-302f~e0 3099-309a:8 a66f:e6 a670-a672:0 a674-a67d:e6 a69e-a69f:e6",
  "a6f0-a6f1:e6 a802:0 a806:9 a80b:0 a823-a824~0 a825-a826:0 a827~0 a82c:9 a880-a881~0 a8b4-a8c3~0",
  "a8c4:9 a8c5:0 a8e0-a8f1:e6 a8ff:0 a926-a92a:0 a92b-a92d:dc a947-a951:0 a952~0 a953~9",
  "a980-a982:0 a983~0 a9b3:7 a9b4-a9b5~0 a9b6-a9b9:0 a9ba-a9bb~0 a9bc-a9bd:0 a9be-a9bf~0 a9c0~9",
  "a9e5:0 aa29-aa2e:0 aa2f-aa30~0 aa31-aa32:0 aa33-aa34~0 aa35-aa36:0 aa43:0 aa4c:0 aa4d~0 aa7b~0",
  "aa7c:0 aa7d~0 aab0:e6 aab2-aab3:e6 aab4:dc aab7-aab8:e6 aabe-aabf:e6 aac1:e6 aaeb~0 aaec-aaed:0",
  "aaee-aaef~0 aaf5~0 aaf6:9 abe3-abe4~0 abe5:0 abe6-abe7~0 abe8:0 abe9-abea~0 abec~0 abed:9",
  "fb1e:1a fe20-fe26:e6 fe27-fe2d:dc fe2e-fe2f:e6 101fd:dc 102e0:dc 10376-1037a:e6 10a01-10a03:0",
  "10a05-10a06:0 10a0c:0 10a0d:dc 10a0e:0 10a0f:e6 10a38:e6 10a39:1 10a3a:dc 10a3f:9 10ae5:e6",
  "10ae6:dc 10d24-10d27:e6 10d69-10d6d:e6 10eab-10eac:e6 10efa-10efb:dc 10efc:0 10efd-10eff:dc",
  "10f46-10f47:dc 10f48-10f4a:e6 10f4b:dc 10f4c:e6 10f4d-10f50:dc 10f82:e6 10f83:dc 10f84:e6",
  "10f85:dc 11000~0 11001:0 11002~0 11038-11045:0 11046:9 11070:9 11073-11074:0 1107f:9",
  "11080-11081:0 11082~0 110b0-110b2~0 110b3-110b6:0 110b7-110b8~0 110b9:9 110ba:7 110c2:0",
  "11100-11102:e6 11127-1112b:0 1112c~0 1112d-11132:0 11133-11134:9 11145-11146~0 11173:7",
  "11180-11181:0 11182~0 111b3-111b5~0 111b6-111be:0 111bf~0 111c0~9 111c9:0 111ca:7 111cb-111cc:0",
  "111ce~0 111cf:0 1122c-1122e~0 1122f-11231:0 11232-11233~0 11234:0 11235~9 11236:7 11237:0",
  "1123e:0 11241:0 112df:0 112e0-112e2~0 112e3-112e8:0 112e9:7 112ea:9 11300-11301:0 11302-11303~0",
  "1133b-1133c:7 1133e-1133f~0 11340:0 11341-11344~0 11347-11348~0 1134b-1134c~0 1134d~9 11357~0",
  "11362-11363~0 11366-1136c:e6 11370-11374:e6 113b8-113ba~0 113bb-113c0:0 113c2~0 113c5~0",
  "113c7-113ca~0 113cc-113cd~0 113ce:9 113cf~9 113d0:9 113d2:0 113e1-113e2:0 11435-11437~0",
  "11438-1143f:0 11440-11441~0 11442:9 11443-11444:0 11445~0 11446:7 1145e:e6 114b0-114b2~0",
  "114b3-114b8:0 114b9~0 114ba:0 114bb-114be~0 114bf-114c0:0 114c1~0 114c2:9 114c3:7 115af-115b1~0",
  "115b2-115b5:0 115b8-115bb~0 115bc-115bd:0 115be~0 115bf:9 115c0:7 115dc-115dd:0 11630-11632~0",
  "11633-1163a:0 1163b-1163c~0 1163d:0 1163e~0 1163f:9 11640:0 116ab:0 116ac~0 116ad:0",
  "116ae-116af~0 116b0-116b5:0 116b6~9 116b7:7 1171d:0 1171e~0 1171f:0 11720-11721~0 11722-11725:0",
  "11726~0 11727-1172a:0 1172b:9 1182c-1182e~0 1182f-11837:0 11838~0 11839:9 1183a:7 11930-11935~0",
  "11937-11938~0 1193b-1193c:0 1193d~9 1193e:9 11940~0 11942~0 11943:7 119d1-119d3~0 119d4-119d7:0",
  "119da-119db:0 119dc-119df~0 119e0:9 119e4~0 11a01-11a0a:0 11a33:0 11a34:9 11a35-11a38:0 11a39~0",
  "11a3b-11a3e:0 11a47:9 11a51-11a56:0 11a57-11a58~0 11a59-11a5b:0 11a8a-11a96:0 11a97~0 11a98:0",
  "11a99:9 11b60:0 11b61~0 11b62-11b64:0 11b65~0 11b66:0 11b67~0 11c2f~0 11c30-11c36:0",
  "11c38-11c3d:0 11c3e~0 11c3f:9 11c92-11ca7:0 11ca9~0 11caa-11cb0:0 11cb1~0 11cb2-11cb3:0 11cb4~0",
  "11cb5-11cb6:0 11d31-11d36:0 11d3a:0 11d3c-11d3d:0 11d3f-11d41:0 11d42:7 11d43:0 11d44-11d45:9",
  "11d47:0 11d8a-11d8e~0 11d90-11d91:0 11d93-11d94~0 11d95:0 11d96~0 11d97:9 11ef3-11ef4:0",
  "11ef5-11ef6~0 11f00-11f01:0 11f03~0 11f34-11f35~0 11f36-11f3a:0 11f3e-11f3f~0 11f40:0 11f41~9",
  "11f42:9 11f5a:0 13440:0 13447-13455:0 1611e-16129:0 1612a-1612c~0 1612d-1612e:0 1612f:9",
  "16af0-16af4:1 16b30-16b36:e6 16f4f:0 16f51-16f87~0 16f8f-16f92:0 16fe4:0 16ff0-16ff1~6 1bc9d:0",
  "1bc9e:1 1cf00-1cf2d:0 1cf30-1cf46:0 1d165-1d166~d8 1d167-1d169:1 1d16d~e2 1d16e-1d172~d8",
  "1d17b-1d182:dc 1d185-1d189:e6 1d18a-1d18b:dc 1d1aa-1d1ad:e6 1d242-1d244:e6 1da00-1da36:0",
  "1da3b-1da6c:0 1da75:0 1da84:0 1da9b-1da9f:0 1daa1-1daaf:0 1e000-1e006:e6 1e008-1e018:e6",
  "1e01b-1e021:e6 1e023-1e024:e6 1e026-1e02a:e6 1e08f:e6 1e130-1e136:e6 1e2ae:e6 1e2ec-1e2ef:e6",
  "1e4ec-1e4ed:e8 1e4ee:dc 1e4ef:e6 1e5ee:e6 1e5ef:dc 1e6e3:e6 1e6e6:e6 1e6ee-1e6ef:e6 1e6f5:e6",
  "1e8d0-1e8d6:dc 1e944-1e949:e6 1e94a:7"]

/-- Marks that stand together in the table. -/
structure Marks where
  row : Row
  /-- Their class. -/
  order : Nat
  /-- Whether they are written beside their letter. -/
  isSpacing : Bool
  deriving DecidableEq, Repr

/-- The marks of the table. -/
def marks : List Marks :=
  (readTable markTable).map fun row =>
    { row
      order := row.numbers.head?.getD 0
      isSpacing := row.entry.head? = some '~' }

/-- The first character that can be a mark. -/
def firstMark : Char := '\u0300'

/-- The marks that a character belongs to, if it is one. -/
def marksOf? (c : Char) : Option Marks :=
  if c < firstMark then none else marks.find? (·.row.covers c)

/-- Whether a character is a mark. -/
def isMark (c : Char) : Bool :=
  (marksOf? c).isSome

/-- Whether a character is a mark above or below its letter. -/
def isNonspacing (c : Char) : Bool :=
  (marksOf? c).any fun marks => !marks.isSpacing

/-- The class of a character: 0 if it stays where it is. -/
def combiningClass (c : Char) : Nat :=
  ((marksOf? c).map (·.order)).getD 0

end NewsFeed.Text
