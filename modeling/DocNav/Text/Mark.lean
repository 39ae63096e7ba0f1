/-
  DocNav.Text.Mark
  ────────────────
  Marks: characters that go with the character before them.

  The order of marks on one character matters only among marks of one
  class; marks of different classes can be put in the order of their
  classes.
-/
import DocNav.Text.Table

namespace DocNav

/-- How a mark goes with the character before it. -/
structure Mark where
  /-- The mark takes room of its own. -/
  spacing : Bool
  /-- Its class; a mark of class 0 stays where it is. -/
  rank : Nat
  deriving Repr, DecidableEq

namespace Mark

/-- The marks, each with its class as a decimal number, after a `c` for
marks that take room. -/
def tableText : String :=
  "300-314:230 315:232 316-319:220 31a:232 31b:216 31c-320:220 321-322:202 323-326:220
   327-328:202 329-333:220 334-338:1 339-33c:220 33d-344:230 345:240 346:230 347-349:220
   34a-34c:230 34d-34e:220 34f:0 350-352:230 353-356:220 357:230 358:232 359-35a:220 35b:230
   35c:233 35d-35e:234 35f:233 360-361:234 362:233 363-36f:230 483-487:230 488-489:0 591:220
   592-595:230 596:220 597-599:230 59a:222 59b:220 59c-5a1:230 5a2-5a7:220 5a8-5a9:230 5aa:220
   5ab-5ac:230 5ad:222 5ae:228 5af:230 5b0:10 5b1:11 5b2:12 5b3:13 5b4:14 5b5:15 5b6:16 5b7:17
   5b8:18 5b9-5ba:19 5bb:20 5bc:21 5bd:22 5bf:23 5c1:24 5c2:25 5c4:230 5c5:220 5c7:18
   610-617:230 618:30 619:31 61a:32 64b:27 64c:28 64d:29 64e:30 64f:31 650:32 651:33 652:34
   653-654:230 655-656:220 657-65b:230 65c:220 65d-65e:230 65f:220 670:35 6d6-6dc:230
   6df-6e2:230 6e3:220 6e4:230 6e7-6e8:230 6ea:220 6eb-6ec:230 6ed:220 711:36 730:230 731:220
   732-733:230 734:220 735-736:230 737-739:220 73a:230 73b-73c:220 73d:230 73e:220 73f-741:230
   742:220 743:230 744:220 745:230 746:220 747:230 748:220 749-74a:230 7a6-7b0:0 7eb-7f1:230
   7f2:220 7f3:230 7fd:220 816-819:230 81b-823:230 825-827:230 829-82d:230 859-85b:220 897:0
   898:230 899-89b:220 89c-89f:230 8ca-8ce:230 8cf-8d3:220 8d4-8e1:230 8e3:220 8e4-8e5:230
   8e6:220 8e7-8e8:230 8e9:220 8ea-8ec:230 8ed-8ef:220 8f0:27 8f1:28 8f2:29 8f3-8f5:230 8f6:220
   8f7-8f8:230 8f9-8fa:220 8fb-8ff:230 900-902:0 903:c 93a:0 93b:c 93c:7 93e-940:c 941-948:0
   949-94c:c 94d:9 94e-94f:c 951:230 952:220 953-954:230 955-957:0 962-963:0 981:0 982-983:c
   9bc:7 9be-9c0:c 9c1-9c4:0 9c7-9c8:c 9cb-9cc:c 9cd:9 9d7:c 9e2-9e3:0 9fe:230 a01-a02:0 a03:c
   a3c:7 a3e-a40:c a41-a42:0 a47-a48:0 a4b-a4c:0 a4d:9 a51:0 a70-a71:0 a75:0 a81-a82:0 a83:c
   abc:7 abe-ac0:c ac1-ac5:0 ac7-ac8:0 ac9:c acb-acc:c acd:9 ae2-ae3:0 afa-aff:0 b01:0 b02-b03:c
   b3c:7 b3e:c b3f:0 b40:c b41-b44:0 b47-b48:c b4b-b4c:c b4d:9 b55-b56:0 b57:c b62-b63:0 b82:0
   bbe-bbf:c bc0:0 bc1-bc2:c bc6-bc8:c bca-bcc:c bcd:9 bd7:c c00:0 c01-c03:c c04:0 c3c:7
   c3e-c40:0 c41-c44:c c46-c48:0 c4a-c4c:0 c4d:9 c55:84 c56:91 c62-c63:0 c81:0 c82-c83:c cbc:7
   cbe:c cbf:0 cc0-cc4:c cc6:0 cc7-cc8:c cca-ccb:c ccc:0 ccd:9 cd5-cd6:c ce2-ce3:0 cf3:c
   d00-d01:0 d02-d03:c d3b-d3c:9 d3e-d40:c d41-d44:0 d46-d48:c d4a-d4c:c d4d:9 d57:c d62-d63:0
   d81:0 d82-d83:c dca:9 dcf-dd1:c dd2-dd4:0 dd6:0 dd8-ddf:c df2-df3:c e31:0 e34-e37:0
   e38-e39:103 e3a:9 e47:0 e48-e4b:107 e4c-e4e:0 eb1:0 eb4-eb7:0 eb8-eb9:118 eba:9 ebb-ebc:0
   ec8-ecb:122 ecc-ece:0 f18-f19:220 f35:220 f37:220 f39:216 f3e-f3f:c f71:129 f72:130 f73:0
   f74:132 f75-f79:0 f7a-f7d:130 f7e:0 f7f:c f80:130 f81:0 f82-f83:230 f84:9 f86-f87:230
   f8d-f97:0 f99-fbc:0 fc6:220 102b-102c:c 102d-1030:0 1031:c 1032-1036:0 1037:7 1038:c
   1039-103a:9 103b-103c:c 103d-103e:0 1056-1057:c 1058-1059:0 105e-1060:0 1062-1064:c
   1067-106d:c 1071-1074:0 1082:0 1083-1084:c 1085-1086:0 1087-108c:c 108d:220 108f:c
   109a-109c:c 109d:0 135d-135f:230 1712-1713:0 1714:9 1715:c9 1732-1733:0 1734:c9 1752-1753:0
   1772-1773:0 17b4-17b5:0 17b6:c 17b7-17bd:0 17be-17c5:c 17c6:0 17c7-17c8:c 17c9-17d1:0 17d2:9
   17d3:0 17dd:230 180b-180d:0 180f:0 1885-1886:0 18a9:228 1920-1922:0 1923-1926:c 1927-1928:0
   1929-192b:c 1930-1931:c 1932:0 1933-1938:c 1939:222 193a:230 193b:220 1a17:230 1a18:220
   1a19-1a1a:c 1a1b:0 1a55:c 1a56:0 1a57:c 1a58-1a5e:0 1a60:9 1a61:c 1a62:0 1a63-1a64:c
   1a65-1a6c:0 1a6d-1a72:c 1a73-1a74:0 1a75-1a7c:230 1a7f:220 1ab0-1ab4:230 1ab5-1aba:220
   1abb-1abc:230 1abd:220 1abe:0 1abf-1ac0:220 1ac1-1ac2:230 1ac3-1ac4:220 1ac5-1ac9:230
   1aca:220 1acb-1ace:230 1acf-1add:0 1ae0-1aeb:0 1b00-1b03:0 1b04:c 1b34:7 1b35:c 1b36-1b3a:0
   1b3b:c 1b3c:0 1b3d-1b41:c 1b42:0 1b43:c 1b44:c9 1b6b:230 1b6c:220 1b6d-1b73:230 1b80-1b81:0
   1b82:c 1ba1:c 1ba2-1ba5:0 1ba6-1ba7:c 1ba8-1ba9:0 1baa:c9 1bab:9 1bac-1bad:0 1be6:7 1be7:c
   1be8-1be9:0 1bea-1bec:c 1bed:0 1bee:c 1bef-1bf1:0 1bf2-1bf3:c9 1c24-1c2b:c 1c2c-1c33:0
   1c34-1c35:c 1c36:0 1c37:7 1cd0-1cd2:230 1cd4:1 1cd5-1cd9:220 1cda-1cdb:230 1cdc-1cdf:220
   1ce0:230 1ce1:c 1ce2-1ce8:1 1ced:220 1cf4:230 1cf7:c 1cf8-1cf9:230 1dc0-1dc1:230 1dc2:220
   1dc3-1dc9:230 1dca:220 1dcb-1dcc:230 1dcd:234 1dce:214 1dcf:220 1dd0:202 1dd1-1df5:230
   1df6:232 1df7-1df8:228 1df9:220 1dfa:218 1dfb:230 1dfc:233 1dfd:220 1dfe:230 1dff:220
   20d0-20d1:230 20d2-20d3:1 20d4-20d7:230 20d8-20da:1 20db-20dc:230 20dd-20e0:0 20e1:230
   20e2-20e4:0 20e5-20e6:1 20e7:230 20e8:220 20e9:230 20ea-20eb:1 20ec-20ef:220 20f0:230
   2cef-2cf1:230 2d7f:9 2de0-2dff:230 302a:218 302b:228 302c:232 302d:222 302e-302f:c224
   3099-309a:8 a66f:230 a670-a672:0 a674-a67d:230 a69e-a69f:230 a6f0-a6f1:230 a802:0 a806:9
   a80b:0 a823-a824:c a825-a826:0 a827:c a82c:9 a880-a881:c a8b4-a8c3:c a8c4:9 a8c5:0
   a8e0-a8f1:230 a8ff:0 a926-a92a:0 a92b-a92d:220 a947-a951:0 a952:c a953:c9 a980-a982:0 a983:c
   a9b3:7 a9b4-a9b5:c a9b6-a9b9:0 a9ba-a9bb:c a9bc-a9bd:0 a9be-a9bf:c a9c0:c9 a9e5:0 aa29-aa2e:0
   aa2f-aa30:c aa31-aa32:0 aa33-aa34:c aa35-aa36:0 aa43:0 aa4c:0 aa4d:c aa7b:c aa7c:0 aa7d:c
   aab0:230 aab2-aab3:230 aab4:220 aab7-aab8:230 aabe-aabf:230 aac1:230 aaeb:c aaec-aaed:0
   aaee-aaef:c aaf5:c aaf6:9 abe3-abe4:c abe5:0 abe6-abe7:c abe8:0 abe9-abea:c abec:c abed:9
   fb1e:26 fe00-fe0f:0 fe20-fe26:230 fe27-fe2d:220 fe2e-fe2f:230 101fd:220 102e0:220
   10376-1037a:230 10a01-10a03:0 10a05-10a06:0 10a0c:0 10a0d:220 10a0e:0 10a0f:230 10a38:230
   10a39:1 10a3a:220 10a3f:9 10ae5:230 10ae6:220 10d24-10d27:230 10d69-10d6d:0 10eab-10eac:230
   10efa-10efc:0 10efd-10eff:220 10f46-10f47:220 10f48-10f4a:230 10f4b:220 10f4c:230
   10f4d-10f50:220 10f82:230 10f83:220 10f84:230 10f85:220 11000:c 11001:0 11002:c 11038-11045:0
   11046:9 11070:9 11073-11074:0 1107f:9 11080-11081:0 11082:c 110b0-110b2:c 110b3-110b6:0
   110b7-110b8:c 110b9:9 110ba:7 110c2:0 11100-11102:230 11127-1112b:0 1112c:c 1112d-11132:0
   11133-11134:9 11145-11146:c 11173:7 11180-11181:0 11182:c 111b3-111b5:c 111b6-111be:0 111bf:c
   111c0:c9 111c9:0 111ca:7 111cb-111cc:0 111ce:c 111cf:0 1122c-1122e:c 1122f-11231:0
   11232-11233:c 11234:0 11235:c9 11236:7 11237:0 1123e:0 11241:0 112df:0 112e0-112e2:c
   112e3-112e8:0 112e9:7 112ea:9 11300-11301:0 11302-11303:c 1133b-1133c:7 1133e-1133f:c 11340:0
   11341-11344:c 11347-11348:c 1134b-1134c:c 1134d:c9 11357:c 11362-11363:c 11366-1136c:230
   11370-11374:230 113b8-113ba:c 113bb-113c0:0 113c2:c 113c5:c 113c7-113ca:c 113cc-113cd:c
   113ce:0 113cf:c 113d0:0 113d2:0 113e1-113e2:0 11435-11437:c 11438-1143f:0 11440-11441:c
   11442:9 11443-11444:0 11445:c 11446:7 1145e:230 114b0-114b2:c 114b3-114b8:0 114b9:c 114ba:0
   114bb-114be:c 114bf-114c0:0 114c1:c 114c2:9 114c3:7 115af-115b1:c 115b2-115b5:0 115b8-115bb:c
   115bc-115bd:0 115be:c 115bf:9 115c0:7 115dc-115dd:0 11630-11632:c 11633-1163a:0 1163b-1163c:c
   1163d:0 1163e:c 1163f:9 11640:0 116ab:0 116ac:c 116ad:0 116ae-116af:c 116b0-116b5:0 116b6:c9
   116b7:7 1171d:0 1171e:c 1171f:0 11720-11721:c 11722-11725:0 11726:c 11727-1172a:0 1172b:9
   1182c-1182e:c 1182f-11837:0 11838:c 11839:9 1183a:7 11930-11935:c 11937-11938:c 1193b-1193c:0
   1193d:c9 1193e:9 11940:c 11942:c 11943:7 119d1-119d3:c 119d4-119d7:0 119da-119db:0
   119dc-119df:c 119e0:9 119e4:c 11a01-11a0a:0 11a33:0 11a34:9 11a35-11a38:0 11a39:c
   11a3b-11a3e:0 11a47:9 11a51-11a56:0 11a57-11a58:c 11a59-11a5b:0 11a8a-11a96:0 11a97:c 11a98:0
   11a99:9 11b60:0 11b61:c 11b62-11b64:0 11b65:c 11b66:0 11b67:c 11c2f:c 11c30-11c36:0
   11c38-11c3d:0 11c3e:c 11c3f:9 11c92-11ca7:0 11ca9:c 11caa-11cb0:0 11cb1:c 11cb2-11cb3:0
   11cb4:c 11cb5-11cb6:0 11d31-11d36:0 11d3a:0 11d3c-11d3d:0 11d3f-11d41:0 11d42:7 11d43:0
   11d44-11d45:9 11d47:0 11d8a-11d8e:c 11d90-11d91:0 11d93-11d94:c 11d95:0 11d96:c 11d97:9
   11ef3-11ef4:0 11ef5-11ef6:c 11f00-11f01:0 11f03:c 11f34-11f35:c 11f36-11f3a:0 11f3e-11f3f:c
   11f40:0 11f41:c9 11f42:9 11f5a:0 13440:0 13447-13455:0 1611e-16129:0 1612a-1612c:c
   1612d-1612f:0 16af0-16af4:1 16b30-16b36:230 16f4f:0 16f51-16f87:c 16f8f-16f92:0 16fe4:0
   16ff0-16ff1:c6 1bc9d:0 1bc9e:1 1cf00-1cf2d:0 1cf30-1cf46:0 1d165-1d166:c216 1d167-1d169:1
   1d16d:c226 1d16e-1d172:c216 1d17b-1d182:220 1d185-1d189:230 1d18a-1d18b:220 1d1aa-1d1ad:230
   1d242-1d244:230 1da00-1da36:0 1da3b-1da6c:0 1da75:0 1da84:0 1da9b-1da9f:0 1daa1-1daaf:0
   1e000-1e006:230 1e008-1e018:230 1e01b-1e021:230 1e023-1e024:230 1e026-1e02a:230 1e08f:230
   1e130-1e136:230 1e2ae:230 1e2ec-1e2ef:230 1e4ec-1e4ed:232 1e4ee:220 1e4ef:230 1e5ee-1e5ef:0
   1e6e3:0 1e6e6:0 1e6ee-1e6ef:0 1e6f5:0 1e8d0-1e8d6:220 1e944-1e949:230 1e94a:7 e0100-e01ef:0"

/-- The marks. -/
def table : CharTable Mark :=
  CharTable.ofText (fun tag =>
    { spacing := tag.head? = some 'c'
      rank := (tag.filter Char.isDigit).foldl (fun n d => n * 10 + (d.toNat - 0x30)) 0 }) tableText

/-- The mark that a character is. -/
def of? (c : Char) : Option Mark :=
  if c.toNat < 0x300 then none else table.find? c

/-- The class of a character; 0 if it is no mark. -/
def rankOf (c : Char) : Nat :=
  match of? c with
  | some m => m.rank
  | none => 0

/-- The character is a mark without room of its own. -/
def isNonspacing (c : Char) : Bool :=
  match of? c with
  | some m => !m.spacing
  | none => false

end Mark

end DocNav
