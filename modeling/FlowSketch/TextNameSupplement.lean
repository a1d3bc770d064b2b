/-! Names of the characters of Unicode 14 from `U+10000` on, as `TextName` reads them. -/
namespace FlowSketch.TextNameSupplement

/-- Entries for consecutive characters, from the given one on. -/
def blocks : List (Nat × List String) := [
  (0x10000, ["aLINEAR B SYLLABLE B008 Au38 Eu28 Iu61 Ou10 Uu01 DAu45 DEu07 DIu14 DOu51 DUv7 JAu46 JE_u36 JOu65 JU",
    "u77 KAu44 KEu67 KIu70 KOu81 KUv0 MAu13 MEu73 MIu15 MOu23 MUu06 NAu24 NEu30 NIu52 NOv5 NUu03 PAu72 PEu39 PIu11 PO",
    "u50 PUu16 QAu78 QEu21 QIu32 QO_u60 RAu27 REu53 RIu02 ROu26 RUu31 SAu09 SEu41 SIu12 SOu58 SUv9 TAu04 TEu37 TI",
    "u05 TOu69 TUu54 WAu75 WEu40 WIv2 WO_u17 ZAu74 ZE_u20 ZOv5 A2u43 A3u85 AUu71 DWEu90 DWOu48 NWAu29 PU2u62 PTE",
    "u76 RA2u33 RA3u68 RO2v6 TA2u87 TWEu91 TWO__lMBOL B018~s22s34s47t9s56s63~s79s82~t6t9"]),
  (0x10080, ["aLINEAR B IDEOGRAM B100 MANv$2 WOv4 DEERv5 EQUIDwF MAREwM STALLIONv6F EWEwM RAMv7F SHE-GOATw)M v8F SOW",
    "wM BOARv9F COWwM BULLu20 WHEATv1 BARLEYv2 OLIVEv3 SPICEv5 CYPERUSjMONOGRAM B127 KAPOv8 KANAKOjIDEOGRAM B130 OIL",
    "v1 WINEv2jMONOGRAM B133 AREPAv5 MERIjIDEOGRAM B140 BRONZEv1 GOLDv2v5 WOOLv6u50v1 HORNv2~~jMONOGRAM B156 TURO2",
    "jIDEOGRAM B157~v9 CLOTHu60~v2 GARMENTv3 ARMOURv4~~~~~u70~~v3 MONTHv4v6 TREEv7~~u80~~~~~v9u90v1 HELMET",
    "t220 FOOTSTOOLv5 BATHTUBu30 SPEARv1 ARROWv2v3 SWORDv4v6u40 WHEELED CHARIOTv*1v2 CHARIOT FRAMEv3 WHEELv5~",
    "jMONOGRAM B247 DIPTEjIDEOGRAM B248~u51~~v4 DARTv5~~~~sVESSEL B155zB200~~~~~~~~~zc10~~~~~~~~~zc21~zd6~~~zc50zB305",
    "_____aAEGEAN WORD SEPARATOR LINEwDOThCHECK MARK____hNUMBER ONEoTWOpHREEoFOURpIVEoSIXpEVENoEIGHToNINEoTENpWENTY",
    "p#HIRo$FOp#IFo#SIXp#EVENo#EIGHo#NINEoONE HUNDREDo*TWOp*HREEo*FOURp*IVEo*SIXp*EVENo*EIGHTo*NINEoONE THOUSANDo+TWO",
    "p+HREEo+FOURp+IVEo+SIXp+EVENo+EIGHTo+NINEo+TENp+WENTYp.HIRo:FOp.IFo.SIXp.EVENo.EIGHo.NINE___hWEIGHT BASE UNIT",
    "o%FIRST SUBo*SECONDo+THIRo*FOURTHh*DRY MEASURE FIRSTh|LIQUIDh*MEASURE SECONDp+THIR",
    "aGREEK ACROPHONIC ATTIC ONE QUARTERzcHALFzcDRACHMAxFIVEzFTYzVE HUNDREDzdTHOUSANDz+FTYzVE TALENTSx*TENx*FIFTY",
    "x*ONE HUNDREDx?FIVx+ONE THOUSANx@FIVzdSTATERSx*TENx*FIFTYx*ONE HUNDREDx?FIVx+ONE THOUSANx?TENx?FIFTYxTEN MNAS",
    "rHERAEUM ONE PLETHRONrTHESPIAN ONEr)HERMIONrEPIDAUREAN TWOr(THESPIrCYRENAIC TWO DRACHMASr;EPIDAUREAN",
    "rTROEZENIAN FIVEzdTENzg ALTERNATE FORMrHERMIONIAN TENr*MESSEr)THESPzcHIRTYs#ROEZENIAN FIFzi ALTERNATE FORM",
    "rHERMIONIAN FIFTYr+THESPz ONE HUNDREDz+ THREr+EPIDAUREAN FIVr=TROEZENIs>HESPr>CARYSTr>NAXrTHESPIAN ONE THOUSAND",
    "z, FIVrDELPHIC FIVE MNASr&STRATIAN FIFTYgONE HALF SIGNt ALTERNATE FORMgTWO THIRDS SIGNh(HREE QUARTERg&YEAR",
    "g&TALENTg&DRACHMAg&OBOLg&TWO OBOLSh.HREEg.FOURh.IVEg(METRETEg&KYATHOS BASEg&LITRAg(OUNKIg&XESTESg&ARTABEi&OURA",
    "g(GRAMMg&TRYBLION BASEg&ZEROg&ONE QUARTERg&SINUSOIDg&INDICTIONa&NOMISMA_a&ROMAN SEXTANSg&UNCIAg,SEMi(XTUL",
    "f; DIMIDIAg(SILIQUg&DENARIUSg.QUIg*SESTERTg*DUPONDg(Ag&CENTURIALaASCIA SYMBOL___aGREEK SYMBOL TAU RHO"]),
  (0x101D0, ["aPHAISTOS DISC SIGN PEDESTRIANuLUMED HEADt)TATTOOtCAPTIVEuHILDtWOMANtHELMETt#GAUNTLtTIARAtARROWt#B",
    "tSHIELDtCLUBtMANACLESvTTOCKtSAWtLIDtBOOMERANGtCARPENTRY PLANEtDOLIUMtCOMBtSLINGtCOLUMNtBEEHIVEtSHIPtHORNuIDE",
    "tBULLS LEGtCATtRAMtEAGLEtDOVEtTUNNYtBEEt#PLANE TRtVINEtPAPYRUStROSETTEtLILYtOX BACKtFLUTEtGRATERt#STRAIN",
    "uMALL AXEtWAVY BANDtCOMBINING OBLIQUE STROKE"]),
  (0x10280, ["aLYCIAN LETTER AoEoBpHoGoDoIoWoZoTHoJ~oQoL~~oMMoNNoUoPoKKoR~~pToANoENoHoX___aCARIAN LETTER AoP2oDoL",
    "oUUUoRoLDoA2oQoBoMoOoD2oToSHq2oSoC-18oUoNNoXoNoTT2oPoSSoIoEoUUUUoKp2oNDoUUoGp2oSTq2oNGoIIoC-39oTToUUU2oRRoMBq2~~",
    "oLD2oE2oUUU3"]),
  (0x102E0, ["aCOPTIC EPACT THOUSANDS MARKnDIGIT ONEtTWOuHREEtFOURuIVEtSIXuEVENtEIGHTtNINEnNUMBER TENvWENTYv#HIRu$FO",
    "v#IFu#SIXv#EVENu#EIGHu#NINEuONE HUNDREDu*TWOv*HREEu*FOURv*IVEu*SIXv*EVENu*EIGHTu*NINE____aOLD ITALIC LETTER AsBE",
    "sKEsDEsEsVEsZEsHEs#TsIsKAsEL~~tSHsOsPEsSHEsKUsER~sTEsUsEKSsPHEs#KsEFtRSsCHEsIIsUUsESSlNUMERAL ONEtFIVEtTENtFIFTY"]),
  (0x1032D, ["aOLD ITALIC LETTER YEsNORTHERN TSEs+SOUaGOTHIC LETTER AHSAoBAIRKANoGIBAoDAGSoAIHVUSoQAIRTHRAoIUJAoHAGL",
    "oTHIUTHoEISoKUSMAoLAGUSoMANNAoNAUTHSoJERoURUSoPAIRTHRAoNINETYoRAIDAoSAUILoTEIWSoWINJAoFAIHUoIGGWSoHWAIRoOTHAL",
    "oNINE HUNDRED_____aOLD PERMIC LETTER ANsBURsGAIsDOIsEsZHOIs%DsZATAs#DZIsIsKOKEsLEIsMENOEs%NsVOOIsPEEIs#RsSIIsTAI",
    "sUsCHERYsSHOOIt%HCsYRYtERUsOtOsEFsHAsTSIUsVERs#YvItATsIEsYUtAsIAaCOMBINING OLD PERMIC LETTER ANzdDOIzdZATA",
    "zdNENOEzdSII_____aUGARITIC LETTER ALPAqBETAqGAMLAqKHAqDELTAqHOqWOqZETAq#HOqTETqYODqKAFqSHINqLAMDAqMEMqDHALqNUN",
    "qZUqSAMKAqAINqPUqSADEqQOPAqRASHAqTHANNAqGHAINqTOqIqUqSSU_jWORD DIVIDERaOLD PERSIAN SIGN ArIrUrKAsUrGAsUrXArCArJA",
    "sIrTAsUrDAsIsUrTHArPArBArFArNAsUrMAsIsUrYArVAsIrRAsUrLArSArZArSHAsSArHA____rAURAMAZDAAzc-2zcHArXSHAAYATHIYA",
    "rDAHYAAUSHzH-2rBAGAsUUMISHmWORD DIVIDERmNUMBER ONEtTWOuENuWENTYtHUNDRED"]),
  (0x10400, ["aDESERET CAPITAL LETTER LONG IzdEzdAzeHzdOzeOxSHORT IzeEzeAzfHzeOzfOxAYxOWxWUxYEExHxPEEx#Bx#Tx#Dx#CH",
    "x#JxKAYx#GxEFxVEExETHxTHEExESxZEExESHxZHEExERyL~~zGxOIxEWiSMALL LETTER LONG Iz Ez AzcHz OzcOvSHORT IzcEzcAzdHzcO",
    "zdOvAYvOWvWUvYEEvHvPEEv#Bv#Tv#Dv#CHv#JvKAYv#GvEFvVEEvETHvTHEEvESvZEEvESHvZHEEvERwL~~xGvOIvEWaSHAVIAN LETTER PEEP",
    "pTOTpKICKpFEEpTHIGHpSOqUREpCHURCHpYEApHUNGpBIBpDEADpGAGpVOWpTHEYpZOOpMEASUREpJUDGEpWOEpHA-HApLOLLpMIMEpIFpEGG",
    "pASHqDOpONpWOOLpOUTpAHpROARpNUNpEATpAGEpICEpUPpOAKqOZEqILpAWEqREpORpAIRpERRpARRAYpEARpIANpYEW",
    "aOSMANYA LETTER ALEFpBApTApJApXApKHApDEELpRApSAqHIINpDHApCAYNpGApFApQAAFp$KpLAANpMIINpNUUNpWAWpHApYApApEpIpOpU",
    "pAApEEpOO__iDIGIT ZEROoONEoTWOpHREEoFOURpIVEoSIXpEVENoEIGHToNINE______cAGE CAPITAL LETTER AwIxNwHvBRAvCHAv$EHvE",
    "wINvHAwYAvIvKAv#EHvKYAvLAvMAvNAvOwINvPAv#EHvSAwHAvTAv#EHvTSAv$EHvTSHAv#DvUvWAvKHAv#GvZAwHA____gSMALL LETTER AuI",
    "vNuHtBRAtCHAt$EHtEuINtHAuYAtItKAt#EHtKYAtLAtMAtNAtOuINtPAt#EHtSAuHAtTAt#EHtTSAt$EHtTSHAt#DtUtWAtKHAt#GtZAuHA____",
    "aELBASAN LETTER ApBEpCEqHEpDEp#NpDHEpEIpEpFEpGEqJEpHEpIpJEpKEpLEp#LpMEpNEqAqJEpOpPEpQEpREp#RpSEqHEpTEqHEpUpVEpXE",
    "pYpZEqHEp#GrAMMApKHE________aCAUCASIAN ALBANIAN LETTER ALTz BETz GIMz DATz EBz ZARLz EYNz ZHILz TASz CHAz YOWD",
    "z ZHAz IRBz SHAz LANz INYAz XEYNz DYANz CARz JHOXz KARz LYITz HEYTz QAYz AORz CHOYzdIzcYAYz MAQz QARz NOWC",
    "z DZYAYz SHAKz JAYNz ONz TYAYz FAMz DZAYz CHATz PENz GHEYSz RATz SEYKz VEYZz TIWRz SHOYz IWNz CYAWzcAYNz YAYD",
    "z PIWRz KIW"]),
  (0x1056F, ["aCAUCASIAN ALBANIAN CITATION MARKaVITHKUQI CAPITAL LETTER AyBBEy#yCEzHEyDEzHEyEIyEyFEyGA_yHAy#HyIzJEy#",
    "yKAyLAy#LyMEyNEzJEyOyPEyQAyRE_ySEzHEyTEzHEyUyVEyXE_yYyZE_jSMALL LETTER AwBBEw#wCExHEwDExHEwEIwEwFEwGA_wHAw#HwI",
    "xJEw#wKAwLAw#LwMEwNExJEwOwPEwQAwRE_wSExHEwTExHEwUwVEwXE_wYwZE"]),
  (0x10600, ["aLINEAR A SIGN AB001~~~~~~~~r10~s3s6~r20~tFtMs2tFtMs3tMs4s6~~p028BpB029r30~s4s7~~r40~s4~~~~~r50~s3~~~~",
    "~~r60~s5~~s9r70s3~s6~~~r80~~s5~~p100-102pB118r20p120BpB122~r31A~p131CpB164r71r80s8r91p301~~~~~~~r9A~~q10~~r3A~~",
    "r4~~~~~q20~~~~~~~~~q30~~~~~~~~~q40~~~~~~~~~q50~~~~~~~~~q60~~~~~~~~~q70~p400-VASr%1r%2r%3r%4r%5r%6r%7r%8r%9q%10",
    "r%1r%2r%3r%4r%5r%6r%7r%8p501~~~~~r8~q10~~~r5~q20~r3~~~~~~q30~~r4~~~~~q40~~r5r7~~q50~~~~~~~r9q63~~~r8~q70~~~~~~~~",
    "~q80~~~~~~~~~q91~r4~~r8p600~~~~r6r8~q10~~~~~~~~~q20~~~~r6~~~q34r7~q40r2~~~~r8~q51~~~~~~~~q60~~~~"]),
  (0x10740, ["aLINEAR A SIGN A701 Ar2 Br3 Dr4 Er5 Fr6 Hr7 Jr8 Kr9 Ls-2 L2t3 L3t4 L4t6 L6q10 Wr1 Xr2 Yr3 OMEGAr4 ABB",
    "r#5 r7 DDq26 EYYYq32 JE"]),
  (0x10760, ["aLINEAR A SIGN A800~~~~~~~"]),
  (0x10780, ["aMODIFIER LETTER SMALL CAPITAL AArUPERSCRIPT TRIANGULAR COLONzc? HALFrMALL AEwCAPITAL BwB WITH HOOK_",
    "wDZ DIGRAPHzh WITH RETROFLEX HOOKznCURLxEZH DIGRAPHx WITH TAILzeHOOKzi AND TAILwREVERSED Ew#CLOSED REVERSED OPEN",
    "wFENG DIGRAPHwRAMS HORNwCAPITAL GwG WITH HOOKu;L CAPITAwH WITH STROKEwCAPITAL HwHENG WITH HOOK",
    "w&DOTLESS J WITH STROKE ANDwLS DIGRAPHx*Zx WITH BELTu;L CAPITAw&L WITH RETROFLEX HOOK ANDxEZH",
    "zH WITH RETROFLEX HOOKwTURNED Yzf WITH BELTwO WITH STROKEwCAPITAL OExLOSED OMEGAwQwTURNED R WITH LONG LEG",
    "zt AND RETROFLEX HOOKwR WITH TAILzeFISHHOOKwCAPITAL RwTC DIGRAPH WITH CURLxS DIGRAPHzh WITH RETROFLEX HOOK",
    "xESH DIGRAPHx WITH RETROFLEX HOOKw&V WITH RIGHT_wCAPITAL YqGLOTTAL STOP WITH STROKEp|$ REVERSEDqBILABIAL CLICK",
    "q*DENTq*LATERq(ALVEOLARqRETROFLEX CLICK WITH RETROFLEX HOOKqSMALL S WITH CURL"]),
  (0x10800, ["aCYPRIOT SYLLABLE ArErIrOrUrJA__sO_rKAsEsIsOsUrLAsEsIsOsUrMAsEsIsOsUrNAsEsIsOsUrPAsEsIsOsUrRAsEsIsOsU",
    "rSAsEsIsOsUrTAsEsIsOsUrWAsEsIsO_rXAsE___rZA__sOaIMPERIAL ARAMAIC LETTER ALEPHyBETHyGIMELyDALETHyHEyWAWyZAYIN",
    "yHETHy$TyYODHyKAPHyLAMEDHyMEMyNUNySAMEKHyAYINyPEySADHEyQOPHyRESHySHINyTAW_rSECTION SIGNrNUMBER ONEyTWOzHREEzEN",
    "zWENTYyONE HUNDREDzdTHOUSANDy+TENaPALMYRENE LETTER ALEPHrBETHrGIMELrDALETHrHErWAWrZAYINrHETHr$TrYODHrKAPHrLAMEDH",
    "rMEMrFINAL NUNq%rSAMEKHrAYINrPErSADHErQOPHrRESHrSHINrTAWmFT-POINTING FLEURONk@RIGHkNUMBER ONErTWOsHREErFOURsIVE",
    "rTENsWENTYaNABATAEAN LETTER FINAL ALEPHq(rFINAL BETHq&rGIMELrDALETHrFINAL HEq$rWAWrZAYINrHETHr$TrFINAL YODHq&",
    "rFINAL KAPHq&rFINAL LAMEDHq)rFINAL MEMq%rFINAL NUNq%rSAMEKHrAYINrPErSADHErQOPHrRESHrFINAL SHINq&rTAW________",
    "kNUMBER ONErTWOsHREErFOURj: CRUCIFORMkNUMBER FIVErTENsWENTYrONE HUNDRED"]),
  (0x108E0, ["aHATRAN LETTER ALEPHoBETHoGIMELoDALETH-RESHoHEoWAWoZAYNoHETHo$ToYODHoKAPHoLAMEDHoMEMoNUNoSAMEKHoAYNoPE",
    "oSADHEoQOPH_oSHINoTAW_____hNUMBER ONEoFIVEoTENpWENTYoONE HUNDREDaPHOENICIAN LETTER ALFsBETsGAMLsDELTsHEsWAUsZAI",
    "sHETs#TsYODsKAFsLAMDsMEMsNUNsSEMKsAINsPEsSADEsQOFsROSHsSHINsTAUlNUMBER ONEsTENtWENTYsONE HUNDREDsTWOtHREE___",
    "lWORD SEPARATORaLYDIAN LETTER A~oGoD~oVoIoYoK~~~~oRoSSoT~oFoQoSoTToANoENoLYoNNoC_____hTRIANGULAR MARK"]),
  (0x10980, ["aMEROITIC HIEROGLYPHIC LETTER AzeEzeIzeOzeYAzeWAzeBAzg-2zePAzeMAzeNAzg-2zfEzg-2zeRAzg-2zeLAzeKHAze#H",
    "zeSAzg-2zfEzeKAzeQAzeTAzg-2zfEzg-2zfOzeDAwSYMBOL VIDJzi-2jCURSIVE LETTER AyEyIyOyYAyWAyBAyPAyMAyNAzEyRAyLAyKHA",
    "y#HySAx$ ARCHAICySEyKAyQAyTAzEzOyDA____rFRACTION ELEVEN TWELFTHSz ONE HALFrLOGOGRAM RMTz IMNrNUMBER ONEyTWOzHREE",
    "yFOURzIVEySIXzEVENyEIGHTyNINEyTENzWENTYz#HIRy$FOz#IFy#SIXz#EVEN__yONE HUNDREDy*TWOz*HREEy*FOURz*IVEy*SIXz*EVEN",
    "y*EIGHTy*NINEyONE THOUSANDy+TWOz+HREEy+FOURz+IVEy+SIXz+EVENy+EIGHTy+NINEy+TENz+WENTYz.HIRy:FOz.IFy.SIXz.EVEN",
    "y.EIGHy.NINEy+ONE HUNDREDy?TWOz?HREEy?FOURz?IVEy?SIXz?EVENy?EIGHTy?NINErFRACTION ONE TWELFTHz TWO TWELFTHS",
    "zc+HREEz+ FOURzc+IVEz+ SIXzc+EVENz+ EIGHTz+ NINEz+ TENaKHAROSHTHI LETTER AlVOWEL SIGN IwUwVOCALIC R_wEwO_____",
    "rLENGTH MARKlSIGN DOUBLE RING BELOWqANUSVARAqVISARGAlLETTER KAtHAsGAtHA_sCAtHAsJA_sNYAsTTAuHAsDDAuHAsNNAsTAtHA",
    "sDAtHAsNAsPAtHAsBAtHAsMAsYAsRAsLAsVAsSHAtSAs#sZAsHAsKKAsTTTHAvAsVHA__lSIGN BAR ABOVEqCAUDAqDOT BELOW____lVIRAMA",
    "lDIGIT ONErTWOsHREErFOURlNUMBER TENtWENTYsONE HUNDREDwTHOUSANDlFRACTION ONE HALF_______lPUNCTUATION DOT",
    "xSMALL CIRCLEw)yRESCENT BARxMANGALAMxLOTUSxDANDAw( DOUBLExLINES_______aOLD SOUTH ARABIAN LETTER HEzLAMEDHzHETH",
    "zMEMzQOPHzWAWzSHINzRESHzBETHzTAWzSATzKAPHzNUNzKHETHzSADHEzcMEKHzFEzALEFzAYNzDHADHEzGIMELzDALETHzGHAYNzTETHzZAYN",
    "zDHALETHzYODHzTHAWzcETHsNUMBER ONEzFIFTYvERIC INDICATOReNORTH ARABIAN LETTER HEHzLAMzHAHzMEEMzQAFzWAWzES-2zREH",
    "z#Bz#TzES-1zKAFzNOONzKHAHzSADzES-3zFEHzALEFzAINzDADzGEEMzDALzGHAINzTAHzZAINzTHALzYEHz#THzZAHsNUMBER ONEzTEN",
    "zTWENTY"]),
  (0x10AC0, ["aMANICHAEAN LETTER ALEPHsBETHt$HsGIMELt%HsDALETHsHEsWAWlSIGN UDlLETTER ZAYINt%Hs%Jt%HsHETHs$TsYODH",
    "sKAPHs$Xs$KHsLAMEDHs&DHs(TsMEMsNUNsSAMEKHsAYINs%AsPEsFEsSADHEsQOPHs$Xs$QHsRESHsSHINs%SsTAW",
    "lABBREVIATION MARK ABOVEzeBELOW____lNUMBER ONEsFIVEsTENtWENTYsONE HUNDREDlPUNCTUATION STARxFLEURON",
    "xDOUBLE DOT WITHIN DOTw=v&xTWO DOTSxLINE FILLER"]),
  (0x10B00, ["aAVESTAN LETTER AqAqOp#AqNp#AqErEpEqEpOqOpIqIpUqUpKEpXEqYEqVEpGEp#GqHEpCEpJEpTEqHEpDEqHEpTTEpPEpFEpBE",
    "qHEpNGErYErVEqEqYEqNEpMEp#HpYYEp#pVEpREpLEpSEpZEpSHEp#ZpSHYEqSHEp#___iABBREVIATION MARK",
    "aTINY TWO DOTS OVER ONE DOT PUNCTUATIONa|:SMALLa|:LARGEg:ONE DOT OVER TWO DOTSg:TWO RINGS OVER ONE RING",
    "g:ONE RING OVER TWO RINGSaINSCRIPTIONAL PARTHIAN LETTER ALEPHzfBETHzfGIMELzfDALETHzfHEzfWAWzfZAYINzfHETHzf$T",
    "zfYODHzfKAPHzfLAMEDHzfMEMzfNUNzfSAMEKHzfAYINzfPEzfSADHEzfQOPHzfRESHzfSHINzfTAW__xNUMBER ONEzfTWOzgHREEzfFOUR",
    "zfTENzgWENTYzfONE HUNDREDzjTHOUSANDqHLAVI LETTER ALEPHzeBETHzeGIMELzeDALETHzeHEzeWAW-AYIN-RESHzeZAYINzeHETHze$T",
    "zeYODHzeKAPHzeLAMEDHzeMEM-QOPHzeNUNzeSAMEKHzePEzeSADHEzfHINzeTAW_____wNUMBER ONEzeTWOzfHREEzeFOURzeTENzfWENTY",
    "zeONE HUNDREDziTHOUSANDaPSALTER PAHLAVI LETTER ALEPHxBETHxGIMELxDALETHxHExWAW-AYIN-RESHxZAYINxHETHxYODHxKAPH",
    "xLAMEDHxMEM-QOPHxNUNxSAMEKHxPExSADHEyHINxTAW_______qSECTION MARKp; TURNEDqFOUR DOTS WITH CROSSzgDOT"]),
  (0x10BA9, ["aPSALTER PAHLAVI NUMBER ONExTWOyHREExFOURxTENyWENTYxONE HUNDRED"]),
  (0x10C00, ["aOLD TURKIC LETTER ORKHON As#YENISEIzcEsORKHON Is#YENISEIz EsORKHON OzOEs$YENISEIsORKHON ABs$YENISEI",
    "sORKHON AEBs%YENISEIsORKHON AGs$YENISEIsORKHON AEGs%YENISEIsORKHON ADs$YENISEIsORKHON AEDzEZs$YENISEIsORKHON AY",
    "s$YENISEIsORKHON AEYs%YENISEIsORKHON AEKs%YENISEIs#ORKHON Os%YENISEIsORKHON ALs$YENISEIsORKHON AELzELTzEMzANzAEN",
    "s%YENISEIsORKHON ENTs%YENISEIsORKHON ENCs%YENISEIsORKHON ENYs%YENISEIz ANGs#ORKHON Es$YENISEI AsORKHON EPzOPzIC",
    "zECs$YENISEIsORKHON AQs$YENISEIsORKHON IQs$YENISEIsORKHON OQs$YENISEIsORKHON ARs$YENISEIsORKHON AERzASzAESzASH",
    "s%YENISEIs#ORKHON Es%YENISEIsORKHON ATs$YENISEIsORKHON AETs%YENISEIsORKHON OTzBASH"]),
  (0x10C80, ["aOLD HUNGARIAN CAPITAL LETTER AzfAzeEBzeAMBzeECzfNCzfCSzfDzeANDzeEzd# CLOSEzeEE~~zgYzfHzeIzfIzeEJ~zeAK",
    "zeUNKzeELzgYzfM~zgYzeOzfOzeNIKOLSBURG OEze$RUDIMENTAzeOEEzeEPzfMPzfRzd$ SHORTzeESzgZzfTzfNTzfTYzfCHzeUzfU",
    "zeNIKOLSBURG UEze$RUDIMENTAzeEVzfZzgSzfNT-SHAPED SIGNzeUS"]),
  (0x10CC0, ["aOLD HUNGARIAN SMALL LETTER AzdAzcEBzcAMBzcECzdNCzdCSzdDzcANDzcEz#R CLOSEzcEE~~zeYzdHzcIzdIzcEJ~zcAK",
    "zcUNKzcELzeYzdM~zeYzcOzdOzcNIKOLSBURG OEzc$RUDIMENTAzcOEEzcEPzdMPzdRz$R SHORTzcESzeZzdTzdNTzdTYzdCHzcUzdU",
    "zcNIKOLSBURG UEzc$RUDIMENTAzcEVzdZzeSzdNT-SHAPED SIGNzcUS_______oNUMBER ONEvFIVEvTENvFIFTYvONE HUNDREDzTHOUSAND",
    "aHANIFI ROHINGYA LETTER AxBAxPAxTAx#TxJAxCAxHAx#KxFAxDAx#DxRAx#RxZAxSAyHAxKAxGAxLAxMAxNAxWAw$ KINNAxYAw$ KINNA",
    "xNGAyYAxVAqVOWEL AwIwUwEwOqMARK SAKINvNA KHONNAqSIGN HARBAHAYvTAHALAxNAxSSI________qDIGIT ZEROwONEwTWOxHREEwFOUR",
    "xIVEwSIXxEVENwEIGHTwNINE"]),
  (0x10E60, ["aRUMI DIGIT ONElTWOmHREElFOURmIVElSIXmEVENlEIGHTlNINEfNUMBER TENnWENTYn#HIRm$FOn#IFm#SIXn#EVENm#EIGH",
    "m#NINEmONE HUNDREDm*TWOn*HREEm*FOURn*IVEm*SIXn*EVENm*EIGHTm*NINEfFRACTION ONE HALFsQUARTERsTHIRDoTWO THIRDS_",
    "aYEZIDI LETTER ELIFoBEoPEpHEo#ToSEoCIMp#Hp$HoHHAoXAoDALo#ZoRApHAoZAoJAoSINp#HpADo#DoTAoZEoEYNo$XHoFAoVA",
    "q ALTERNATE FORMoQAFo#Kp#Ho#GoLAMoMIMoNUNoUMoWAWoOWoEWoHAYoYOToET_hCOMBINING HAMZA MARKr(MADDh&HYPHENATION__",
    "hLETTER LAM WITH DOT ABOVEo(YOT WITH CIRCUMFLEX"]),
  (0x10F00, ["aOLD SOGDIAN LETTER ALEPHs( FINALtBETHs& FINALtGIMELtHEs$ FINALtWAWtZAYINtHETHtYODHtKAPHtLAMEDHtMEM",
    "tNUNs% FINALzd WITH VERTICAL TAILtSAMEKHtAYINs& ALTERNATEtPEtSADHEs( FINALzf WITH VERTICAL TAILtRESH-AYIN-DALETH",
    "tSHINtTAWs% FINALzd WITH VERTICAL TAILmNUMBER ONEtTWOuHREEtFOURuIVEtTENuWENTYu#HIRtONE HUNDREDmFRACTION ONE HALF",
    "mLIGATURE AYIN-DALETH________aSOGDIAN LETTER ALEPHpBETHpGIMELpHEpWAWpZAYINpHETHpYODHpKAPHpLAMEDHpMEMpNUNpSAMEKH",
    "pAYINpPEpSADHEpRESH-AYINp#SHpTAWpFETHpLESHiINDEPENDENT SHINiCOMBINING DOT BELOWs(TWO DOTSsDOT ABOVEs(TWO DOTS",
    "s(CURVEyBELOWsHOOK ABOVExBELOWp;NG LOs(RESHs(STROKEiNUMBER ONEpTENqWENTYpONE HUNDRED",
    "iPUNCTUATION TWO VERTICAL BARSzm WITH DOTSuCIRCLE WITH DOTuTWO CIRCLES WITH DOTSuHALF CIRCLE WITH DOT"]),
  (0x10F70, ["aOLD UYGHUR LETTER ALEPHsBETHs$GIMEL-HsWAWsZAYINsFINAL HETHsYODHsKAPHsLAMEDHsMEMsNUNsSAMEKHsPEsSADHE",
    "sRESHsSHINsTAWsLESHlCOMBINING DOT ABOVEzBELOWvTWO DOTS ABOVEzfBELOWlPUNCTUATION BARxTWO BARSzcDOTSx&FOUR"]),
  (0x10FB0, ["aCHORASMIAN LETTER ALEPHr( SMALLsBETHsGIMELsDALETHsHEsWAWr% CURLEDsZAYINsHETHsYODHsKAPHsLAMEDHsMEMsNUN",
    "sSAMEKHsAYINsPEsRESHsSHINsTAWlNUMBER ONEsTWOtHREEsFOURsTENtWENTYsONE HUNDRED"]),
  (0x10FE0, ["aELYMAIC LETTER ALEPHpBETHpGIMELpDALETHpHEpWAWpZAYINpHETHp$TpYODHpKAPHpLAMEDHpMEMpNUNpSAMEKHpAYINpPE",
    "pSADHEpQOPHpRESHpSHINpTAWjIGATURE ZAYIN-YODH"]),
  (0x11000, ["aBRAHMI SIGN CANDRABINDUmANUSVARAmVISARGAmJIHVAMULIYAm$UPADHMANhLETTER ApAoIpIoUpUoVOCALIC RxRwLxLoE",
    "oAIoOoAUoKApHAoGApHAoNGAoCApHAoJApHAoNYAoTTAqHAoDDAqHAoNNAoTApHAoDApHAoNAoPApHAoBApHAoMAoYAoRAoLAoVAoSHApSAo#oHA",
    "oLLAo$OLD TAMIL LyRRAyNNNAhVOWEL SIGN AAr$ BHATTIPROLUsItIsUtUsVOCALIC RzcRz LzcLsEsAIsOsAUiIRAMAhDANDAg( DOUBLE",
    "hPUNCTUATION DOTs% DOUBLEtLINEtCRESCENT BARtLOTUS____hNUMBER ONEoTWOpHREEoFOURpIVEoSIXpEVENoEIGHToNINEoTENpWENTY",
    "p#HIRo$FOp#IFo#SIXp#EVENo#EIGHo#NINEoONE HUNDREDsTHOUSANDhDIGIT ZEROnONEnTWOoHREEnFOURoIVEnSIXoEVENnEIGHTnNINE",
    "hSIGN OLD TAMIL VIRAMAhLETTER OLD TAMIL SHORT EzfOhVOWEL SIGN OLD TAMIL SHORT EzjOhLETTER OLD TAMIL LLA"]),
  (0x1107F, ["aBRAHMI NUMBER JOINERaKAITHI SIGN CANDRABINDUmANUSVARAmVISARGAhLETTER ApAoIpIoUpUoEoAIoOoAUoKApHAoGA",
    "pHAoNGAoCApHAoJApHAoNYAoTTAqHAoDDAqDHAo%o#RoNNAoTApHAoDApHAoNAoPApHAoBApHAoMAoYAoRAoLAoVAoSHApSAo#oHA",
    "hVOWEL SIGN AAsItIsUtUsEsAIsOsAUhSIGN VIRAMAmNUKTAhABBREVIATION SIGNh,ENUMERh&NUMBERhSECTION MARKg; DOUBLEiANDA",
    "g( DOUBLEhVOWEL SIGN VOCALIC R"]),
  (0x110CD, ["aKAITHI NUMBER SIGN ABOVE__aSORA SOMPENG LETTER SAHu#Tu#Bu#Cu#Du#Gu#Mu#NGu#Lu#Nu#Vu#Pu#Yu#Ru#Hu#Ku#J",
    "u#NYu#uEEHuIHuUHuOHuEHuMAE_______nDIGIT ZEROtONEtTWOuHREEtFOURuIVEtSIXuEVENtEIGHTtNINE______",
    "aCHAKMA SIGN CANDRABINDUmANUSVARAmVISARGAhLETTER AAoIoUoEoKAAp#Ho#Gp#Ho#NGo#Cp#Ho#Jp#Ho#NYo#TTq#Ho#DDq#Ho#NNo#T",
    "p#Ho#Dp#Ho#No#Pp#Ho#Bp#Ho#Mo#YYo$o#Ro#Lo#Wo#So#HhVOWEL SIGN AsItIsUtUsEsAIsOsAUsOIhO MARKh&AUhVIRAMAhMAAYYAA_",
    "hDIGIT ZEROnONEnTWOoHREEnFOURoIVEnSIXoEVENnEIGHTnNINEhSECTION MARKhDANDAg( DOUBLEhQUESTION MARKhLETTER LHAA",
    "h#VOWEL SIGN sEIhLETTER VAA________aMAHAJANI LETTER AqIqUqEqOqKArHAqGArHAqCArHAqJArHAqNYAqTTAsHAqDDAsHAqNNAqTA",
    "rHAqDArHAqNAqPArHAqBArHAqMAqRAqLAqVAqSAqHAqRRAjSIGN NUKTAjABBREVIATION SIGNjSECTION MARKjLIGATURE SHRI"]),
  (0x11180, ["aSHARADA SIGN CANDRABINDUnANUSVARAnVISARGAiLETTER AqApIqIpUqUpVOCALIC RyRxLyLpEpAIpOpAUpKAqHApGAqHA",
    "pNGApCAqHApJAqHApNYApTTArHApDDArHApNNApTAqHApDAqHApNApPAqHApBAqHApMApYApRApLAp#LpVApSHAqSAp#pHAiVOWEL SIGN AAtI",
    "uItUuUtVOCALIC RzdRzcLzdLtEtAItOtAUiSIGN VIRAMAnAVAGRAHAnJIHVAMULIYAn$UPADHMANiOMiDANDAh( DOUBLE",
    "iABBREVIATION SIGNiSEPARATORjANDHI MARKjIGN NUKTAiVOWEL MODIFIER MARKi&EXTRA SHORT VOWELi&SUTRA",
    "iVOWEL SIGN PRISHTHAMATRA EiSIGN INVERTED CANDRABINDUiDIGIT ZEROoONEoTWOpHREEoFOURpIVEoSIXpEVENoEIGHToNINEiEKAM",
    "i#SIGN SIDDHiHEADSTROKEiCONTINUATION SIGNiSECTION MARK-1~_bINHALA ARCHAIC DIGIT ONEwTWOxHREEwFOURxIVEwSIXxEVEN",
    "wEIGHTwNINEqNUMBER TENyWENTYy#HIRx$FOy#IFx#SIXy#EVENx#EIGHx#NINExONE HUNDREDzcTHOUSAND"]),
  (0x11200, ["aKHOJKI LETTER ApAoIoUoEoAIoOoAUoKApHAoGAo#GpHAoNGAoCApHAoJAo#J_oNYAoTTAqHAoDDAqHAoNNAoTApHAoDAo#DDpHA",
    "oNAoPApHAoBAo#BpHAoMAoYAoRAoLAoVAoSAoHAoLLAhVOWEL SIGN AAsItIsUsEsAIsOsAUhSIGN ANUSVARAmVIRAMAmNUKTAmSHADDAh#DAN",
    "g( DOUBLEhWORD SEPARATORhSECTION MARKg; DOUBLEhABBREVIATION SIGNhSIGN SUKUN"]),
  (0x11280, ["aMULTANI LETTER ApIpUpEpKAqHApGA_qHA_pCAqHApJAp#J_pNYApTTArHApDDAp$DrHApNNApTAqHApDAqHApNApPAqHApBA_",
    "qHApMApYApRApLApVApSApHApRRAqHAiSECTION MARK______aKHUDAWADI LETTER AsArIsIrUsUrErAIrOrAUrKAsHArGAr#GsHArNGArCA",
    "sHArJAr#JsHArNYArTTAtHArDDAr$DrRRArDDHArNNArTAsHArDAsHArNArPAsHArBAr#BsHArMArYArRArLArVArSHAsArHAkSIGN ANUSVARA",
    "kVOWEL SIGN AAvIwIvUwUvEvAIvOvAUkSIGN NUKTApVIRAMA_____kDIGIT ZEROqONEqTWOrHREEqFOURrIVEqSIXrEVENqEIGHTqNINE____",
    "__aGRANTHA SIGN COMBINING ANUSVARA ABOVEoANDRABINDUnANUSVARAnVISARGA_iLETTER AqApIqIpUqUpVOCALIC RxL__pEEpAI__",
    "pOOpAUpKAqHApGAqHApNGApCAqHApJAqHApNYApTTArHApDDArHApNNApTAqHApDAqHApNA_pPAqHApBAqHApMApYApRA_pLAp#L_pVApSHAqSA",
    "p#pHA_aCOMBINING BINDU BELOWaGRANTHA SIGN NUKTAnAVAGRAHAiVOWEL SIGN AAtIuItUuUtVOCALIC RzdR__tEEtAI__tOOtAU",
    "iSIGN VIRAMA__iOM______iAU LENGTH MARK_____iSIGN PLUTAiLETTER VEDIC ANUSVARAu+ DOUBLEqOCALIC RRxLL",
    "iVOWEL SIGN VOCALIC LzdL__aCOMBINING GRANTHA DIGIT ZEROyONEyTWOzHREEyFOURzIVEySIX___sLETTER AzKAzNAzVIzPA"]),
  (0x11400, ["aNEWA LETTER AnAmInImUnUmVOCALIC RvRuLvLmEmAImOmAUmKAnHAmGAnHAmNGAoHAmCAnHAmJAnHAmNYAoHAmTTAoHAmDDAoHA",
    "mNNAmTAnHAmDAnHAmNAnHAmPAnHAmBAnHAmMAnHAmYAmRAnHAmLAnHAmWAmSHAnSAm#mHAfVOWEL SIGN AAqIrIqUrUqVOCALIC RzRyLzLqE",
    "qAIqOqAUfSIGN VIRAMAkCANDRABINDUkANUSVARAkVISARGAkNUKTAkAVAGRAHAkFINAL ANUSVARAfOMfSIDDHIfDANDAe( DOUBLEfCOMMA",
    "fGAP FILLERfABBREVIATION SIGNfDIGIT ZEROlONElTWOmHREElFOURmIVElSIXmEVENlEIGHTlNINEgOUBLE COMMAfPLACEHOLDER MARK_",
    "fINSERTION SIGNfSANDHI MARKfLETTER VEDIC ANUSVARAfSIGN JIHVAMULIYAk$UPADHMAN"]),
  (0x11480, ["aTIRHUTA ANJIiLETTER AqApIqIpUqUpVOCALIC RyRxLyLpEpAIpOpAUpKAqHApGAqHApNGApCAqHApJAqHApNYApTTArHApDDA",
    "rHApNNApTAqHApDAqHApNApPAqHApBAqHApMApYApRApLApVApSHAqSAp#pHAiVOWEL SIGN AAtIuItUuUtVOCALIC RzdRzcLzdLtEs# SHORT",
    "tAItOs# SHORTtAUiSIGN CANDRABINDUnANUSVARAnVISARGApRAMAnNUKTAnAVAGRAHAiGVANGiABBREVIATION SIGNiOM________",
    "iDIGIT ZEROoONEoTWOpHREEoFOURpIVEoSIXpEVENoEIGHToNINE"]),
  (0x11580, ["aSIDDHAM LETTER AqApIqIpUqUpVOCALIC RyRxLyLpEpAIpOpAUpKAqHApGAqHApNGApCAqHApJAqHApNYApTTArHApDDArHA",
    "pNNApTAqHApDAqHApNApPAqHApBAqHApMApYApRApLApVApSHAqSAp#pHAiVOWEL SIGN AAtIuItUuUtVOCALIC RzdR__tEtAItOtAU",
    "iSIGN CANDRABINDUnANUSVARAnVISARGApRAMAnNUKTAnSIDDHAMiDANDAh( DOUBLEiSEPARATOR DOTsBARiREPETITION MARK-1~~",
    "iEND OF TEXT MARKiSECTION MARK WITH TRIDENT AND U-SHAPED ORNAMENTSzn%DOTTED CRESCz^ RAYSzq, DOUBLEzr:TRIP",
    "vDOUBLE RINGzh WITH RAYSvWITH DOUBLE CRESCENTSz: TRIPz; QUADRUz< SEPTz CIRCLES AND RAYSznTWO ENCLOSURESzn.FOUR",
    "iLETTER THREE-CIRCLE ALTERNATE Iq[WOzmIpALTERNATE Ui:VOWEL SIGNzfU"]),
  (0x11600, ["aMODI LETTER AnAmInImUnUmVOCALIC RvRuLvLmEmAImOmAUmKAnHAmGAnHAmNGAmCAnHAmJAnHAmNYAmTTAoHAmDDAoHAmNNA",
    "mTAnHAmDAnHAmNAmPAnHAmBAnHAmMAmYAmRAmLAmVAmSHAnSAm#mHAmLLAfVOWEL SIGN AAqIrIqUrUqVOCALIC RzRyLzLqEqAIqOqAU",
    "fSIGN ANUSVARAkVISARGAmRAMAkARDHACANDRAfDANDAe( DOUBLEfABBREVIATION SIGNfSIGN HUVA"]),
  (0x11650, ["aMODI DIGIT ZEROlONElTWOmHREElFOURmIVElSIXmEVENlEIGHTlNINE______cNGOLIAN BIRGA WITH ORNAMENT",
    "kROTATED BIRGAkDOUBLE BIRGA WITH ORNAMENTk|TRIPk+BIRGA WITH DOUBLEk+ROTATED BIRGA WITHzd+ DOUBLEkINVERTED BIRGA",
    "y WITH DOUBLE ORNAMENTkSWIRL BIRGAv WITH ORNAMENTz+H DOUBLEj|. TURNED"]),
  (0x11680, ["aTAKRI LETTER AoAnIoInUoUnEnAInOnAUnKAoHAnGAoHAnNGAnCAoHAnJAoHAnNYAnTTApHAnDDApHAnNNAnTAoHAnDAoHAnNA",
    "nPAoHAnBAoHAnMAnYAnRAnLAnVAnSHAoAnHAnRRAg#SIGN ANUSVAlVISARGAgVOWEL SIGN AArIsIrUsUrErAIrOrAUgSIGN VIRAMAlNUKTA",
    "gLETTER ARCHAIC KHAgABBREVIATION SIGN______gDIGIT ZEROmONEmTWOnHREEmFOURnIVEmSIXnEVENmEIGHTmNINE"]),
  (0x11700, ["aAHOM LETTER KAnHAmNGAnAmTAl$ ALTERNATEmPAnHAmBAmMAmJAmCHAm#TmRAmLAmSAmNYAmHAmAmDAnHAmGAl$ ALTERNATE",
    "mGHAm#Bm#JmALTERNATE BA__fCONSONANT SIGN MEDIAL LAzcRAz$L LIGATINGfVOWEL SIGN ArAqIrIqUrUqEqAWqOqAIrM",
    "fSIGN KILLER____fDIGIT ZEROlONElTWOmHREElFOURmIVElSIXmEVENlEIGHTlNINEfNUMBER TENnWENTYfSIGN SMALL SECTIONj*",
    "kRULAIgYMBOL VIfLETTER CAmTTAoHAmDDAoHAmNNAmLLA"]),
  (0x11800, ["aDOGRA LETTER AoAnIoInUoUnEnAInOnAUnKAoHAnGAoHAnNGAnCAoHAnJAoHAnNYAnTTApHAnDDApHAnNNAnTAoHAnDAoHAnNA",
    "nPAoHAnBAoHAnMAnYAnRAnLAnVAnSHAoSAn#nHAnRRAgVOWEL SIGN AArIsIrUsUrVOCALIC RzRRrErAIrOrAUgSIGN ANUSVARAlVISARGA",
    "nRAMAlNUKTAgABBREVIATION SIGN"]),
  (0x118A0, ["aWARANG CITI CAPITAL LETTER NGAAzcAzcWIzcYUzdAzdOzcIIzcUUzcEzcOzcANGzcGAzcKOzcENYzcYUJzcUCzcENNzcODD",
    "zcTTEzcNUNGzcDAzcATzdMzcBUzcPUzcHIYOzdOLOzeRRzdARzcSSUUzdIIzcVIYOmSMALL LETTER NGAAzAzWIzYUzYAzYOzIIzUUzEzOzANG",
    "zGAzKOzENYzYUJzUCzENNzODDzTTEzNUNGzDAzATzAMzBUzPUzHIYOzHOLOzcRRzHARzSSUUzSIIzVIYOmDIGIT ZEROsONEsTWOtHREEsFOUR",
    "tIVEsSIXtEVENsEIGHTsNINEmNUMBER TENuWENTYu#HIRt$FOu#IFt#SIXu#EVENt#EIGHt#NINE"]),
  (0x118FF, ["aWARANG CITI OMaDIVES AKURU LETTER AuAtIuItUuUtE__tO__tKAuHAtGAuHAtNGAtCAuHAtJA_tNYAtTTA_tDDAvHAtNNA",
    "tTAuHAtDAuHAtNAtPAuHAtBAuHAtMAtYAt#YtRAtLAtVAtSHAuSAt#tHAtLLAtZAmVOWEL SIGN AAxIyIxUyUxE_xAIxO__mSIGN ANUSVARA",
    "rCANDRABINDUrHALANTAmVIRAMAmPREFIXED NASAL SIGNmMEDIAL YAmINITIAL RAm(MEDmSIGN NUKTAmDOUBLE DANDAmGAP FILLER",
    "mEND OF TEXT MARK"]),
  (0x11950, ["aDIVES AKURU DIGIT ZEROsONEsTWOtHREEsFOURtIVEsSIXtEVENsEIGHTsNINE"]),
  (0x119A0, ["aNANDINAGARI LETTER AuAtIuItUuUtVOCALIC RzdR__tEtAItOtAUtKAuHAtGAuHAtNGAtCAuHAtJAuHAtNYAtTTAvHAtDDAvHA",
    "tNNAtTAuHAtDAuHAtNAtPAuHAtBAuHAtMAtYAtRAtLAtVAtSHAuSAt#tHAtLLAtRRAmVOWEL SIGN AAxIyIxUyUxVOCALIC RzhR__xExAIxO",
    "xAUmSIGN ANUSVARArVISARGAtRAMArAVAGRAHArSIDDHAMmHEADSTROKEmVOWEL SIGN PRISHTHAMATRA E"]),
  (0x11A00, ["aZANABAZAR SQUARE LETTER ArVOWEL SIGN IzdUEzdUzdEzdOEzdOzdAIzeUzdREVERSED IxLENGTH MARKrLETTER KAzHA",
    "yGAzHAyNGAyCAzHAyJAyNYAyTTAzTHAyDDAzDHAyNNAyTAzHAyDAzHAyNAyPAzHAyBAzHAyMAyTSAzSHAyDZAzZHAy$zAy-AyYAyRAyLAyVAySHA",
    "zSAy#yHAyKSSArFINAL CONSONANT MARKrSIGN VIRAMAwCANDRABINDUzi WITH ORNAMENTzd<wANUSVARAwVISARGA",
    "rCLUSTER-INITIAL LETTER RAzFINAL LETTER YAznRAznLAznVArINITIAL HEAD MARKr,CLOSINGrMARK TSHEGwSHADv& DOUBLE",
    "wLONG TSHEGrINITIAL DOUBLE-LINED HEAD MARKr|CLOSING rSUBJOINER________aSOYOMBO LETTER AiVOWEL SIGN ItUEtUtEtOuE",
    "tAIuUtVOCALIC RzcLoLENGTH MARKiLETTER KAqHApGAqHApNGApCAqHApJAqHApNYApTTArHApDDArHApNNApTAqHApDAqHApNApPAqHApBA",
    "qHApMApTSArHApDZApZHAqAp-ApYApRApLApVApSHAqSAp#pHApKSSAiSIGN JIHVAMULIYAn$UPADHMANiCLUSTER-INITIAL LETTER RAzgLA",
    "zgSHAzhAiFINAL CONSONANT SIGN GzeKzeNGzeDzeNzeBzeMzeRzeLzeSHzeSze-AiSIGN ANUSVARAnVISARGAiGEMINATION MARK",
    "iSUBJOINERiMARK TSHEGnSHADm& DOUBLEnPLUTAiHEAD MARK WITH MOON AND SUN AND TRIPLE FLAMEzo(zjNiTERMINAL MARK-1~"]),
  (0x11AB0, ["aCANADIAN SYLLABICS NATTILIK HIzfIzeOzfOzeAzfAzdSHRIzhIzgOzhOzgAzhAtSPEvIvOvAa#PAU CIN HAU LETTER tKA",
    "tLAtMAtDAtZAtVAtNGAtHAtGAtKHAtSAtBAtCAtTAuHAtNAtPHAtRAtFAtCHAtAtEtItOtUuAtIAtFINAL PzKzTzM~zLzWzNGzY",
    "mRISING TONE LONGwEmSANDHI GLOTTAL STOPmRISING TONE LONG FINALx(m(SANDHI GLOTTAL STOPtTONE LONGwEx LONG FINALx(",
    "mMID-LEVEL TONEmGLOTTAL STOP VARIANTmMID-LEVEL TONE LONG FINALz(EmLOW-FALLING TONE LONGzcEmGLOTTAL STOP",
    "mLOW-FALLING TONE LONG FINALzd(m(GLOTTAL STOP"]),
  (0x11C00, ["aBHAIKSUKI LETTER AsArIsIrUsUrVOCALIC RzRRzL_rErAIrOrAUrKAsHArGAsHArNGArCAsHArJAsHArNYArTTAtHArDDAtHA",
    "rNNArTAsHArDAsHArNArPAsHArBAsHArMArYArRArLArVArSHAsSAr#rHAkVOWEL SIGN AAvIwIvUwUvVOCALIC RzfRzeL_vEvAIvOvAU",
    "kSIGN CANDRABINDUpANUSVARApVISARGArRAMApAVAGRAHAkDANDAj( DOUBLEkWORD SEPARATORkGAP FILLER-1~"]),
  (0x11C50, ["aBHAIKSUKI DIGIT ZEROqONEqTWOrHREEqFOURrIVEqSIXrEVENqEIGHTqNINEk#NUMBER OrTWOsHREErFOURsIVErSIXsEVEN",
    "rEIGHTrNINErTENsWENTYs#HIRr$FOs#IFr#SIXs#EVENr#EIGHr#NINEkHUNDREDS UNIT MARK___a&MARCHEN HEADiMARK SHAD",
    "iLETTER KAqHApGAp#NpCAqHApJApNYApTAqHApDApNApPAqHApBApMApTSArHApDZApWApZHAqAp-ApYApRApLApSHAqApHApA__",
    "iSUBJOINED LETTER KAzKHAzGAz#NzCAzCHAzJAzNYAzTAzTHAzDAzNAzPAzPHAzBAzMAzTSAzcHAzDZAzWAzZHAzZA_zYAzRAzLAzSHAzSAzHA",
    "zAiVOWEL SIGN AAtItUtEtOiSIGN ANUSVARAnCANDRABINDU"]),
  (0x11D00, ["aMASARAM GONDI LETTER AwAvIwIvUwUvE_vAIvO_vAUvKAwHAvGAwHAvNGAvCAwHAvJAwHAvNYAvTTAxHAvDDAxHAvNNAvTAwHA",
    "vDAwHAvNAvPAwHAvBAwHAvMAvYAvRAvLAvVAvSHAwSAv#vHAvLLAvKSSAvJNYAvTRAoVOWEL SIGN AAzIzIIzUzUUzVOCALIC R___zE_zAIzO_",
    "zAUoSIGN ANUSVARAtVISARGAtNUKTAtCANDRAtHALANTAoVIRAMAoREPHApA-KARA________oDIGIT ZEROuONEuTWOvHREEuFOURvIVEuSIX",
    "vEVENuEIGHTuNINE______aGUNJALA GONDI LETTER AwAvIwIvUwU_vEEvAI_vOOvAUvYAvVAvBAwHAvMAvKAwHAvTAwHAvLAvGAwHAvDAwHA",
    "vNAvCAwHAvTTAxHAvLLAvJAwHAvDDAxHAvNGAvPAwHAv#vRAvSAoVOWEL SIGN AAzIzIIzUzUU_zEEzAI_zOOzAUoSIGN ANUSVARAtVISARGA",
    "oVIRAMAoOM_______oDIGIT ZEROuONEuTWOvHREEuFOURvIVEuSIXvEVENuEIGHTuNINE"]),
  (0x11EE0, ["aMAKASAR LETTER KApGAp#NpPApBApMApTApDApNApCApJApNYAp#pRApLApVApSApAiANGKAiVOWEL SIGN ItUtEtO",
    "iPASSIMBANGiEND OF SECTION"]),
  (0x11FB0, ["aLISU LETTER YHA"]),
  (0x11FC0, ["aTAMIL FRACTION ONE THREE-HUNDRED-AND-TWENTIETHt&ONE-HUNDRED-AND-SIXt&EIGHt#SIXTY-FOURt#FORTIE",
    "tTHIRTY-SECONDpTHREE EIGHTIETHSv$SIXTY-FOURpONE TWENTIETHtSIXTEENTH-1~tTENTHt#EIGHpTHREE TWENTIETHSv$SIXTEEN",
    "pONE FIFTHtQUARTERtHALF-1~pTHREE QUARTERSpDOWNSCALING FACTOR KIIZHgSIGN NELlCEVITUlAAZHAAKKUl%UZHl)MUUVlKURUNI",
    "lPATHAKKUlMUKKURUNIlKAACUlPANAMmONlVARAAKANlPAARAMlKUZHIlVELIgWET CULTIVATION SIGNg?DRYg&LANDg&SALT PAN",
    "g&TRADITIONAL CREDITs&NUMBERg&CURRENTg&AND ODDg&SPENTg&TOTALg&IN POSSESSIONg&STARTING FROMhIGN MUTHALIYA",
    "lVAKAIYARAA"]),
  (0x11FFF, ["aTAMIL PUNCTUATION END OF TEXTaCUNEIFORM SIGN Aq TIMES AxBADxGAN2 TENUxHAxIGIxLAGAR GUNUxMUSHxSAGq2qB",
    "r TIMES ASH2yDUN3 GUNUyGALzAN2 TENUyHAyIGI GUNUzMINyLAGABySHESHyU PLUS U PLUS UsGUNUr2s TIMES BALAGzGAN2 TENU",
    "zME PLUS ENzSHA3zTAK4qDqKr TIMES ERIN2ySHITA PLUS GISHqLr TIMES ALyDIM2yGISHyHAyKAD3zIySHEyUSHrANrEPHqMAR",
    "t TIMES SHEqNr OVER ANsTHREE TIMESsPLUS NAGA OPPOSING AN PLUS NAGAzdSQUAREDrSHEqPINqRADt TIMES KURrKABqSAL2rH",
    "s ZIDA TENUt(KABtOVER ASH TUG2 OVER TUG2 TUG2 OVER TUG2 PAPzdOVER ASHo| ASH OVER ASH OVER ASH CROSSINGs2sGABpBA",
    "rDrG3rHAR2rLs OVER BALsAGrRsA2qIr TIMES AyGARyIGI GUNUqUr OVER BU ABz UNsCROSSING BUrLUGu OVER BULUGrRs2pDArG",
    "s KISIM5 TIMES A PLUS MASHziMARzhBALAGziIzhGAzj PLUS MASHziIzjR2ziUDzhHAzhIRzj PLUS LUzhKAKzhLAziUzj PLUS MASH2",
    "zjMzhNEzhPAP PLUS PAPzhSIzhTAK4zhU2 PLUS GIR2ziSHrMrRsA3~qIrBrMs TIMES SHEs2rNs KASKAL U GUNU DISHo&qUr OVER DU",
    "sGUNUsSHESHIGrBs TIMES ESH2s2rGsUDrHrNs3t GUNUy GUNUs4rR2pEq TIMES PAPrOVER E NUN OVER NUNq2",
    "r TIMES A PLUS HA PLUS DAyGARyMIySALzHEyUqDINqGIRqLqNr TIMES GAN2zd TENUyMEsCROSSING ENs)OPPOsSQUAREDqRENrIN2",
    "qSH2qZENt TIMES Azc PLUS LALzl TIMES LALzcNz BADz DUN3 GUNUzk GUNUz HAzd GUNUz& IGIz KASKALzh SQUAREDzcU3z LA",
    "zdL TIMES LALzcIzcUz U2zcDpGAr GUNUr2s TIMES A PLUS DA PLUS HAz+zhIGIzAB2 TENU PLUS TABzANzASHzd2 PLUS GALzBAD",
    "zcR PLUS RAzBURzd PLUS RAzDAzDIzcM TIMES SHEzDUBzELzc PLUS LAzENzc TIMES GAN2 TENUs>zcRzGIzc4zd PLUS A",
    "zcR2 PLUS SUzHA PLUS LU PLUS ESH2zcLzd PLUS LAzHI PLUS LIzHUB2zIGI GUNUzISH PLUS HU PLUS ASHzKAKzcSKALzKID",
    "zd PLUS LALzKU3 PLUS ANzLAzME PLUS ENzMIzNUNy% NUN OVERzPAzSALzcRzSHEzd PLUS TURzcIDzSUMzTAK4zUzUDzc PLUS DU",
    "tOVER GA2rBAt CROSSING GABArDs OVER GAD GAR OVER GARrLs GAD OVER GAD GAR OVER GARsAMq#~s2t TENUuOVER GAN2",
    "u&CROSSINGrRs3rSHANqESHTINw TIMES KURqIr TIMES EyUsCROSSING GIr4s OVER GI4t%CROSSINGrDIMrR2t GUNUs3",
    "t TIMES A PLUS IGIz GAN2 TENUz IGIy&S LU PLUz PArSALsHt CROSSING GISHuTIMES BADz TAK4vENUqUr CROSSING GUr2",
    "s TIMES KAKzd TIMES IGI GUNUzNUNzSAL PLUS TUG2tGUNUrDs TIMES A PLUS KURx&tOVER GUD LUGALrL~s TIMES SHErRs7sUNtSH",
    "pHAr TENUs#GUrLqIr TIMES ASHzc2yBADyDISHyGADyKINyNUNySHEyUqUrB2t TIMES ANz HALz# KASKz LISHz UDrL2pIq AqBqDIM",
    "t OVER IDIM BURzfSQUAREDqGrIs DIBtRItOVER IGI SHIR OVER SHIR UD OVER UDtGUNUqLr TIMES GAN2 TENUr2qMr TIMES TAK4",
    "sCROSSING IMs)OPPOsSQUAREDrINp#qRqSHpKAr TIMES AzDzD PLUS KU3zSH2yBADzALAGzARzIyERIN2zSH2yGAzALzAN2 TENUzAR",
    "zc PLUS SHA3 PLUS AzIzIR2zISH PLUS SARzeCROSSING GISHzUzUR7yIGIzMyKAKzIzIDyLIzUyMEzE PLUS DUzhGIzhTEzI",
    "zI PLUS NUNUZyNEzUNyPIyRUySAzARzHAzHEzHIDzHUzIGzUHURyTARyUz2zDzMUM TIMES PAzSHyZIr2s CROSSING KA2rBrD2~~~",
    "t OVER KAD5rKs TIMES IGI GUNUrLs TIMES BADtCROSSING KALrM2s4rSKALv LAGAB TIMES U OVER LAGAB TIMES U",
    "o|@ KASKAL OVERqESH2qIr TIMES BADyUzDrDrNrSALsHsIM5v OVER KISIM5qUr OVER HI TIMES ASH2 KU OVER HI TIMES ASH2r3~",
    "s VARIANT FORMr7rLs GUNUrNrRs OPPOSING KURrSHU2qWU318pLArGABu TIMES Azd PLUS DA PLUS HAzjGARzjLALzc#zdN",
    "zdSH ZIDA TENUzcBADzdIzcDARzcENzcGAzeRzdUDz&S GUD PLUzcHAzeLzdI TIMES NUNzcIGI GUNUzdMze PLUS HAzkLUzcKIzeNzdU3",
    "zeLzf PLUS HI PLUS AzcLAGABzdISHzdUzeLzcMEze PLUS ENzdUSHzcNEzcSHE PLUS SUMzeITA PLUS GISH PLUS ERIN2zsTENUzeU2",
    "z(S SHU2 PLUzdUMzcTAGzeK4zdE PLUS A PLUS SU PLUS NAzcUzd PLUS AzjU PLUS Uzd2 PLUS ASHzdDzdSHvSQUAREDtR",
    "u TIMES SHEzf PLUS SUMvGUNUz OVER LAGAR GUNU SHErHSHUrLs TIMES LALrMs TIMES KURzd PLUS RUqIrLrMMU2rSHqU",
    "r TIMES BADr2s TIMES ALzBADzESH2ze TENUz(GANzHI TIMES BADzIMzKAD2~ze PLUS ASHzKIzLA PLUS ASHzcGABzME PLUS ENzNE",
    "zNUzSI PLUS ASHzcK2 PLUS BUzTUG2uENUtCROSSING LU2t*OPPOtSQUAREDuHESHIGr3rGALu OVER LUGALw(PPOSINGvSHESHIGrHrL~",
    "s OVER LUMzc GAR OVER GARpMAr TIMES TAK4sGUNUr2rHrRrSHt2qErSqIrNqUr OVER MUrGs GUNUrNSUBrRGU2rSHt TIMES Az KUR",
    "z ZAuOVER MUSHze TIMES A PLUS NAuCROSSING MUSHt3u TIMES Azd PLUS DIz%vGUNUpNAr2rGAt INVERTEDuTIMES SHU TENU",
    "uOPPOSING NAGAtRrM NUTILLUrMs2qEr TIMES AyUDsSHESHIGqIr TIMES Er2rMs TIMES GAN2 TENUx.S GAR PLUrNDA2v TIMES AN",
    "zeSHzg PLUS ASHzdGUDzdME PLUS GAN2 TENUzdNEzeUNzdSHEzg PLUS A ANznSHzp PLUS ASHzd+U2ze#rSAGqUr11rN",
    "s LAGAR TIMES GARzgMASHzgSALo] NUN LAGAR TIMES SAL OVERzgUSHtTENUtOVER NUNt%CROSSINGzg LAGAR OVER LAGARsUZ",
    "u AB2 TIMES ASHGABzgBIzgDUGzgGUDzgIGI GUNUzgKAD3zgLAzgNEzgSILA3zgU2vKISIM5 TIMES BIzl UpPArDrNrPqESH2qIr TIMES A",
    "zByBIzUyEyIzByUz2sCROSSING PIrRIGu TIMES KALzcUDzcZAvOPPOSING PIRIGpRArBqIqUpSArG NUTILLUrGs TIMES AzDUzcBzHA",
    "zKAKzKURzLUMzMIzNUNzSALzSHIDzTABzU2zUBzUMzURzUSHtOVER SAGtGUNUrLs LAGAB TIMES ASH2rNGA2rRqHAs3t TIMES Az BAD",
    "z GISHz NEz SHU2z TURz Uzc PLUS As6sB6sR2rEs HUtOVER SHE GAD OVER GAD GAR OVER GARzd;TAB OVER TABsG9sNsSHu2uLAM",
    "rIDt TIMES Az IMr#t TIMES Az BALzcULUGz DINz GARz IGIze GUNUz KUSHU2z LULz MUGz SALsNIGsRt TENU",
    "uOVER SHIR BUR OVER BURsTArUs OVER INVERTED SHUs2sBURqIr GUNUrGs4t OVER SIG4 SHU2rK2rLA3qUr OVER SUrDs2rHURrM",
    "sASHrRs9pTAr ASTERISKsTIMES HIyMIsGUNUrBs OVER TAB NI OVER NI DISH OVER DISHtSQUAREDrGs TIMES BIzGUDzSHEzcUzTUG2",
    "zUDrK4rRqEr GUNUqIr TENUrLrRs TIMES TAK4tOVER TIRzc GAD OVER GAD GAR OVER GARqUrG2rKrMrRs OVER TUR ZA OVER ZApU",
    "q GUDrU UrOVER U PA OVER PA GAR OVER GARySUR OVER SURyU REVERSED OVER U REVERSEDq2qBqDr KUSHU2sTIMES BADyMI",
    "yU PLUS U PLUS Uzo GUNUr&sSHESHIGz TIMES BADrUGqMr TIMES LAGAByME PLUS DAySHA3yUrBINrUMt TIMES KASKALz PAqN",
    "r GUNUqRr CROSSING URsSHESHIGr2s TIMES A PLUS HAzhNAzALzHAzNUNzU2zc PLUS ASHziBIr4rIs3rUs TIMES AzASHGABzBARzDUN",
    "zGAzcLzcN2 TENUzcRzGUzHAzIGIzIMzISHzKIzLUMzMINzPAzSHEzSIG4zTUzU PLUS GUDz#zURUDAo(u TIMES UqSHs TIMES AzKUzcR",
    "zTAK4sXs2sUMXqTUKIqZ3s TIMES KASKALrUpZAr TENUsSQUARED TIMES KURrGrMXqE2qIr OVER ZIr3rBs KABA TENUrGrZ2qUr5",
    "s TIMES ArBURrMpKAP ELAMITEpAB TIMES NUNr2 TIMES AqMAR TIMES KUGpDAG KISIM5 TIMES U2 PLUS MASHs3qISH PLUS SHU",
    "qUB TIMES SHEpEZEN TIMES GUDz SHEpGA2 TIMES AN PLUS KAK PLUS AzASH2qE22qIGpHUSHpKA TIMES ANSHEzSH3yGISHzUD",
    "yHI TIMES ASH2yLUMyPAySHULyTUyUR2pLAGAB TIMES GIqU2 SHESHIG TIMES BADtTIMES ESH2 PLUS LALzSHUpMESHqUSH3 TIMES ZA",
    "pNA4qINs9sDA2 TIMES BALzdGIqU11 ROTATED NINETY DEGREESpPESH2 ASTERISKqIR2pSAG TIMES IGI GUNUpTI2pUM TIMES MEq U"]),
  (0x12400, ["aCUNEIFORM NUMERIC SIGN TWO ASHy%HREEx%FOURy%IVEx%SIXy%EVENx%EIGHTx%NINEx#THREE DIx&FOURy&IVEx&SIX",
    "y&EVENx&EIGHTx&NINExFOUR Uy#IVEx#SIXy#EVENx#EIGHTx#NINExONE GESH2x(TWOy(HREEx(FOURy(IVEx(SIXy(EVENx(EIGHTx(NINE",
    "xONE GESHUx(TWOy(HREEx(FOURy(IVExTWO SHAR2y(HREEzj VARIANT FORMxFOUR SHAR2y(IVEx(SIXy(EVENx(EIGHTx(NINE",
    "xONE SHARUx(TWOy(HREEzj VARIANT FORMxFOUR SHARUy(IVExSHAR2 TIMES GAL PLUS DISHztMINxONE BURUx&TWOy&HREE",
    "zi VARIANT FORMxFOUR BURUy&IVExTHREE VARIANT FORM ESH16zu21xFOUR VARIANT FORM LIMMUzv4zv A~",
    "xSIX VARIANT FORM ASH9yEVEN VARIANT FORM IMIN3zv A~xEIGHT VARIANT FORM USSUzv3xNINE VARIANT FORM ILIMMUzw3~zw A",
    "xTWO ASH TENUy+HREEx+FOURy+IVEx+SIXxONE BAN2x&TWOy&HREEx&FOURzh VARIANT FORMyIVE BAN2zh VARIANT FORMxNIGIDAMIN",
    "zeESHxONE ESHE3x(TWOxONE THIRD DISHx&TWO THIRDSx(FIVE SIXTHxONE THIRD VARIANT FORM Ax=TWO THIRDSxONE EIGHTH ASH",
    "zc%QUARTERyLD ASSYRIAN ONE SIXTHzpQUARTERyNE QUARTER GURzc%HALFxELAMITE ONE THIRDzgTWO THIRDSzgFORTYzh#IF",
    "xFOUR U VARIANT FORMy=IVEx=SIXy=EVENx=EIGHTx=NINE_kPUNCTUATION SIGN OLD ASSYRIAN WORD DIVIDERzcVERTICAL COLON",
    "zc*DIAGONzl&TRIzl&QUAD"]),
  (0x12480, ["aCUNEIFORM SIGN AB TIMES NUN TENUySHU2qD TIMES ESH2pBAD TIMES DISH TENUrHAR2 TIMES AB2zdNIzdZA",
    "qU OVER BU TIMES NA2pDA TIMES TAK4rG TIMES KURqIM TIMES IGIzU U Us2 TIMES UDqUG TIMES ANSHEzASHzd AT LEFTzDIN",
    "zDUNzERIN2zGAzGIzcR2 GUNUzcSHzHAzHIzIGI GUNUzKASKALzKURzcSHU2zg PLUS KASKALzLAK-020zcMzd TIMES KURzLUH PLUS GISH",
    "z#MAzMESzMIzNIzPIzSHEzSI GUNUpE2 TIMES KURyPAPqRIN2 XqSH2 CROSSING ESH2qZEN SHESHIG TIMES ASHzjHIzjIGI GUNUzjLA",
    "zlLzjMEzlSzjSUt+pGA2 TIMES BAHAR2zDIM GUNUz&DUG TIMES IGIzkKASKALzERENzGAzcR PLUS DIzjNEzHA PLUS A",
    "zKUSHU2 PLUS KASKALzLAMzd TIMES KURzLUHzMUSHzNEzc PLUS E2ziGIzSHIMzZIZ2rBA ROTATED NINETY DEGREESqESHTIN TIMES U",
    "qISH TIMES GISH CROSSING GISHqU2 TIMES IGI GUNUrD PLUS GISH TIMES TAK4pHA TENU GUNU",
    "qI TIMES ASH OVER HI TIMES ASHpKA TIMES BUyKAyU U UzRpLAGAB TIMES ZU OVER ZUrK-003u21v5u30u50~u62",
    "u79 OVER LAK-079 GUNUu80v1 OVER LAK-081u92t130u42t210v9u20v5v8u38u65~t343v7~u83~u90t441v9w TIMES GUzeIGI",
    "zePAP PLUS LU3zc<S PAP PLUzeU2 PLUS BAu50v7u70u83u90v2~v5t550t608u17w TIMES ASHzeBADzeDUN3 GUNU GUNUzeKU3zeLA",
    "zeTARzfEzeU2zfDzfRUDAu36u48w TIMES DUBzeGAzeIGIzh GUNUzeNIzePAP PLUS PAP PLUS LU3zeSHESH PLUS KIzeUDzfRUDAt724",
    "u49qU2 GUNU TIMES ASHt#TIMES DIzHALzPAPzd PLUS PAP PLUS LU3zTAK4pMI PLUS ZA7qUSH OVER MUSH TIMES GAzlKAK",
    "pNINDA2 TIMES DIM GUNUzdGISHzeULzdHIzdKESH2zdLAK-050zdMASHzdPAP PLUS PAPzdUze PLUS UzeRUDApSAG GUNU TIMES HA",
    "tTIMES ENzSHE AT LEFTzTAK4qHA6 TENUrE OVER SHEtPLUS HUB2yNAM2ySARrU2 PLUS DUG TIMES NIzE2 TIMES ANqI TIMES TAK4",
    "pTAK4 PLUS SAGqUM TIMES GAN2 TENUzTHREE DISHpUR2 INVERTEDtTIMES UDrU TIMES DARA3zLAK-668zLU3pZA7",
    "qU OVER ZU PLUS SARr5 TIMES THREE DISH TENU"]),
  (0x12F90, ["aCYPRO-MINOAN SIGN CM001~w4~~~~~v10~~xBw3w5w7w9v21w3~~~~~~v30w3~~~~~~v40~w4w6~w9v50~~~~~~w8~v60~~~~w6~",
    "~~v70~~~~~xBw6w8~v80~~~~~~~~~v90~~w4~~~~~u100~~~~~w7~~v10w2w4u301~"]),
  (0x13000, ["aEGYPTIAN HIEROGLYPH A001~~~~yAx6yA~x7~~w10~~~~yAx5~~yAx8~w20~~~~~~~~~w30~~yAx3~~~~~~w40yAx1~yAx3yAx4~",
    "yAx6~~~w50~~~~~~~~~w60~~~~~~~~~w70uB001~~~~yAx6~~~uC001~yA~~x3~~~~~~w10yAx1~~~~~~~~w20~~~~uD001~~~~~~~yAx9w10~~~",
    "~~~~~~w20~~~~~~~yAx8~w30~yAx2~~yAx5~~~~w40~~~~~~yAx7~yAx9w50yA~~~~~~~~x1~yAx3~yAx5~~~~w60~~~~~~~yA~~~~~~~uE001~~",
    "~~~~~yAx9yAw10~~~~~~yAx7yAx8~w20yAx1~~~~~~~yAx9w30~~~~yAx6~~uF001yAx2~~~~~~~w10~~~yAx4~~~~~w20~yAx2~~~~~~~w30~yA",
    "x2~~~~~yAx8yAx9w40~~~~~yAx6yAx7yAx8~w50~yA~~x2~uG001~~~~~yAx7yA~x8~w10~yAx2~~~~~~~w20yAx1~~~~~yAx7~~w30~~~~~~yA",
    "x7yAx8~w40~~~yAx4~yAx6~~~w50~~~~uH001~~~~~yAx7~uI001~~~~yAx6~~~yAw10yAx1yAx2~~~uK001~~~~~~~uL001~yAx3~~~yAx7~",
    "uM001yA~x2~yAx4~~~~~w10yAx1~yA~~~~~~~x3~~yAx6yAx7yAx8~w20~~yAx3~yAx5~~~yAx9w30~yAx2~yA~x4~~~~~w40yAx1~~~uN001~~~",
    "~~~~~w10~~~~~~~~yA~x9w20~~~~~yAx6~~~w30~~~yAx4yAx5yAx6~yAx8~w40~~vL001~~~~zAy6~~~x10~~~~~~~zAy8~x20vU001~~~~~~~~",
    "x10zAy1zAy2~~~~~~zAy9x20~~zAuO001yAx2~~~yAx6yA~~~~~x7~~w10yA~~x1~~~~~~~~yAw20yAx1~~~yAx5yAx6~~~yAw30yAx1~~yAx4~~",
    "yA~~~x7~~w40~~~~~~~~~w50yA~x1uP001yAx2~yAx4~~~~~w10~uQ001~~~~~~uR001~yAx3yA~x4~~~~~w10yAx1~~~~~yAx7~~w20~~~~~~~~",
    "~uS001~yAx3~~~yAx7~~w10~~~~yA~x5~~yAx8~w20~~~~~~yA~x7~~w30~~~~~yAx6~~~w40~~~~~~uT001~~yAx4~~~yAx8yAx9yAw10~yAx2~",
    "~~~yAx7~~w20~~~~~~~~~w30~~yAx3yAx4~~uU001~~~~~yA~x7~~w10~~~~~~~~~w20~~~yAx4~~~~~yAw30~~yAx3~~~~~~w40~~uV001yA~~~",
    "~~~~~x2yAx3~~~~yA~x8~w10~yA~~x2yA~x3~~~~~~w20yA~~~~~~~~~~~x1~~yAx4~~~~yAx9yAw30yAx1yAx2~yAx4~~~yAx8~w40yAuW001~~",
    "yAx4~~~~~yAw10yAx1~~~yAx5~~yAx8yAx9w20~~~~yAx5uX001~~~yA~x5~yAx7~yAuY001yAx2~~~~~~uZ001~yA~~~x3yA~x4yAx5yAx6~~~",
    "w10~~~~~yA~~~~~~~~x6yA~~~~~~~uAA001~~~~~~zA~y8~x10~~~~~~~~~x20~~~~~~~~~x30~~_uVERTICAL JOINERu+HORIZONT",
    "uINSERT AT TOP STARTzf(BOTTOMzfTOP ENDzf%BOTTOMuOVERLAY MIDDLEuBEGIN SEGMENTu*END"]),
  (0x14400, ["aANATOLIAN HIEROGLYPH A001~~~~~~~~x10zAy1~~~~~~~~x20~~~~~~zAy7~~x30~~~~~~~~~zAx40~zAy2~~~zAy6zA~y7~~",
    "x50~~~~~~~~~x60~~~~~~zA~~y7~~x70~~~~~~~~~x80~~~~~~~~~x90~~~~~~~zAy8zAy9w100zAy1zAy2zAy3~zA~~y5zA~y6~zA~~y8~x10zA",
    "~y1~~~~zAy6~~~x20~~~~~zAy6~~~x30~~~~~zAy6~~~x40~~~~~~~~~x50~~~~~~~~~x60~~~~~~~~~x70~~~~~~~~~x80~~~~~~~~~x90~~~~~",
    "~~~~w200~~zA~y3~~~~zAy8~zAx10~~~~~zAy6zAy7~~x20~~~~~~~zAy8~x30~~~~~~~~~x40~~~~~~~~~x50~~~~~~~~~x60~~~~~~~zAy8~",
    "x70~~~~~~~~~x80~~~~~~~~~zAx90~~~~zAy5~~~~zAw300~~~~~~~~~zAx10~~~~~~~~~x20~~~~~~~~~zAx30~y2A~~y3~~~zA~~y7~~x40~~~",
    "~~~~~~x50~~~~~~~~~zAx60~~~~zAy5~~~zAy9x70~zAy2~~~~~~~x80~zAy2y3 RA OR RIzAy4~~zAy7~~x90~~y3 EIGHTy4~~~~~w400~~~~",
    "~~~~~x10 BEGIN LOGOGRAM MARKz<A ENDy1~~~~~~~~x20~~~~~~~~~x30~~~~~~~~~x40~~~~~~~~~x50zAy1~~~~~~zAy8~x60~~~~~~~~~",
    "x70~~~~~~~~~x80~~~~~~~~~x90~~~~~~~w501~~~~~~~~x10~~~~~~~~~x20~~~~~~~~~x30"]),
  (0x16800, ["aBAMUM LETTER PHASE-A NGKUE MFONv$GBIEE vPON MFON PIPAEMGBIEEzlBAvNAA MFONvSHUENSHUETvTITA MFONv(NZ",
    "vSHINDA PA NJIvPON PA NJI PIPAEMGBIEEznBAvMAEMBGBIEEvTU MAEMBAvNGANGUvMAEMVEUXxNSUAEwVEUAENGAMv#SEUNYvNTOQPEN",
    "vKEUKEUTNDAvNKINDIvSUUvNGKUENZEUMvLAPAQwET KUTvNTAP MFAAvMAEKEUPvPASHAEv#GHEUAERv#PAMSHvMON NGGEUAETvNZUN MEUT",
    "vU YUQ NAEv#GHEUAEGHEUvNTAP NTAAvSISAv#MGBAwEUNJOMNDEUQw#OOMPvKAFAvPA LEERAEWAv,NDvPETvMAEMKPENvNIKAvPUPvTUAEP",
    "v%LvSONJAMvTEUTEUWENvMAENYIvKETv#NDAANGGEUAvKUOQvMOOMEUTvSHUMvLOMMAEvFIRIvROMvKPOQv#SvMAP PIEETvSHIRAEvNTAP",
    "vSHOQ NSHUT YUMvNYIT MONGKEUAEQvPAARAEv&NKvUNKNOWNvNGGENvMAESIvNJAMvMBANYIvNYETvTEUAENvSOTvPAAMvNSHIEEvMAEMvNYI",
    "vKAQvNSHAvVEEvLUvNENwAQv#MBtB NSHUETvTU MAEMGBIEEv$SwET TUvLOM NTEUMvMBA MAELEEvKIEEMvYEURAEv$MBAAvKAMvPEESHI",
    "vYAFU LEERAEWAvLAM NSHUT NYAMvNTIEE SHEUOQwDU NJAAvGHEUGHEUAEMvPITvTU NSIEEvSHET NJAQyUAEQTUvMFON TEUAEQ",
    "wBIT MBAAKETvNYI NTEUMvKEUPUQvGHEUGHENvKEUYEUXvLAANAEvPARUMv#VEvNGKINDI MVOPxGEU MBUvWUAETvSAKEUAEvTAAMvMEUQ",
    "vNGGUOQzc LARGEvMFIYAQvSUEvMBEURIwONTIEENvNYAEMAEvPUNGAAMvMEUT NGGEETvFEUXvMBUOQvFEEvKEUAEMvMA NJEUAENAzJUQAvLET",
    "vNGGAAMwSENvMAvKIQvNGOMtC NGKUE MAEMBAwZAvYUMvWANGKUOQvNGGENwDEUAEREEwGKAQvGHARAEvMBEEKEETvGBAYI",
    "vNYIR MKPARAQ MEUNwTU MBITvMBEUMvPIRIEENvNDOMBUvMBAA CABBAGE-TREEvKEUSHEUAEPvGHAPvKEUKAQvYU MUOMAEvNZEUMvMBUE",
    "vNSEUAENvMBITvYEUQvKPARAQwAAvSEUXvNDIDAvTAASHAEvNJUEQvTITA YUEvSUAETvNGGUAEN NYAMvVEUXvNANSANAQvMA KEUAERIvNTAA",
    "wGGUONvLAPvMBIRIEENwGBASAQvNTEUNGBAvTEUTEUXvNGGUMvFUEvNDEUTwSAxHAQvBUNGvVEUAEPENvMBERAEvRUvNJAEMvLAMvTITUAEP",
    "vNSUOT NGOMwJEEEEvKETvNGGUvMAESIwBUAEMvLUvKUTvNJAMwGOMvWUPvNGGUEETwSOMwTENvKUOP NKAARAEvNSUNwDAMvMA NSIEEvYAA",
    "vNDAPvSHUEQwETFONvMBIwAEMBAwBANYIvKEUSEUXv$MBvKEUMvMBAA PICKETvYUWOQvNJEUXvMIEEwUAEvSHIQvKEN LAWzFATIGUEvNGAQw#",
    "vLIQvPINwENvTETtD MBUOvWAPvNJIvMFONvNJIEEv$LvNJEUTwSHEEwGGAAMAEwYAMvWUAENvNGKUNvSHEEvNGKAPvKEUAETMEUNvTEUT",
    "vSHEUAEvNJAPvSUEvKETvYAEMMAEvKUOMvSAPvMFEUTvNDEUXvMALEERIwEUTvSEUAEQvYENvNJEUAEMvKEUOT MBUAEvNGKEURIvTUvGHAA",
    "vNGKYEEvFEUFEUAETvNDEEvMGBOFUMvLEUAEPvNDONvMONIwGBEUNvPUUTvMGBIEEwFOvLUMvNSIEEPvMBAAvKWAETv#NYvTEUAENvSOTvYUWOQ",
    "vKEUMvRAEMvTEEEEvNGKEUAEQvMFEUAEvNSIEETvKEUPvPIPwEUTAEvNYUEvLETvNGGAAMvMFIEEvNGGWAENvYUOMvPAPvYUOPvNDAMwTEUM",
    "vSUAEvKUNvNGGEUXxKIEEvTUOTvMEUNvKUQvNSUMvTEUNvMAENJETvNGGAPvLEUMvNGGUOMwSHUTwJUEQvGHEUAEvKUvREN OLDvTAEwOQvNYI",
    "vRIIvLEEEEv%MvMvSUUvMUvSHIIxEUXvKYEEvNUvSHUvNTEEv#PvNIvSHOQvPUQvMVOPvLOQvREN MUCHvTIvNTUUvMBAA SEVENvSAQvFAA",
    "tE NDAPvTOONvMBEUMvLAPvVOMvLOONvPAAvSOMvRAQvNSHUOPwDUNvPUAEvTAMvNGKAvKPEUXvWUOvSEEvNGGEUAETvPAAMvTOOvKUOPvLOM",
    "vNSHIEEwGOPvMAEMvNGKEUXxOQwSHUEvRIMGBAvNJEUXvPEEMvSAAvNGGURAEvMGBAvGHEUXvNGKEUAEMwJAEMLIvMAPvLOOTvNGGEEEEwDIQ",
    "vTAEN NTEUMvSETvPUMvNDAA SOFTNESSwGGUAESHAE NYAMvYIEEvGHEUNvTUAEv$YEvPOvTUMAEv#KEUvSUAENvTEUAEQvVEUAEvWEUXvLAAM",
    "vPUvTAAQvGHAAMAEvNGEUREUTvSHEUAEQvMGBENwBEEvNZAQwKOMvGBETvTUMvKUETvYAPvNYI CLEAVERvYITvMFEUQvNDIAQvPIEEQv#YU",
    "vLEUAEMvFUEvGBEUXvNGKUPvKETvMAEvNGKAAMIvGHETvFAvNTUMvPEUTvYEUMvNGGEUAEwYI BETWEENwZUQvPOONvMIEEvFUETvNAEv#MU",
    "v$GHEvFU IvMVIvPUAQvNGKUMvKUTvPIETvNTAPvYEUAETvNGGUPvPA PEOPLEvFU CALLwOMvNJEEvAvTOQvOvIvLAQvPA PLURALvTAAxQ",
    "vNDAA MY HOUSEvSHIQvYEUXvNGUAEvYUAENwOQ SWIMMINGzCOVERwUQxNvKEUXv$PvNJEE EPOCHvPUEv#WvFEEv#VvLUvMIvREUXwAE",
    "vNGUAETxAvSHOyQvFU REMEDYvNAvPIvLOQvKOvMENwAxQvTEUvKIvMONvTENvFAQvGHOMtF KAvUvKUvEEv#RvTAEvNYIvLAvRIIxEEv#MEE",
    "vTAAv#NDwJAEMvMvSUUwHIIwIwEUXvKYEEwETvNUAEwUwJUAEvYOQvSHUvYAvNSHAvPEUXvNTEEvWUEvPEEvRUvNIvREUXvKENv#NGKWAxGAvSHO",
    "vPUAEvFOMvWAvLIwOQvKOvMBENv#RvMAwOwBAAvTETvKPAvSAMBAvVUEQ_______aMRO LETTER TAlNGIlYOlMIMlBAlDAlAlPHIlKHAIlHAO",
    "lDAIlCHUlKEAAElOLlMAEMlNINlPAlOOlOlROlSHIlTHEAl#lWAlElKOlLANmAlHAIlRIlTEK_eDIGIT ZEROkONEkTWOlHREEkFOURlIVEkSIX",
    "lEVENkEIGHTkNINE____fANDAd( DOUBLEaTANGSA LETTER OZpCpQpXoAZpCpQpXoVZpCpQpXoEZpCpQpXoIZpCpQpXoUZpCpQpXoAWZqCqQqX",
    "oUIZqCqQqXoFINAL NGoLONG UEXoSHORT UEZuAWXoUECqZqQqXpIUZrCrQrXoMZpCpQpXoKApHAoGAo#NoSAoYAoWAoPAoNYAoPHAoBAoMAoNA",
    "oHAoLAoHTAo#oDAoRAoNHAo#SoCAoTSAoGHAoHTTAoTHAoXAoFAoDHAo#CoZA_hDIGIT ZEROnONEnTWOoHREEnFOURoIVEnSIXoEVENnEIGHT",
    "nNINE______aBASSA VAH LETTER ENNIrKArSErFArMBErYIErGAHrDHIIrKPAHrJOrHWAHrWArZOrGBUrDOrCErUWUrTOrBArVUrYEINrPA",
    "rWADDArArOsOrUrEErErI__kCOMBINING HIGH TONEu&LOWu&MIDu*LOW-u&HIGH-LOWkFULL STOP"]),
  (0x16B00, ["aPAHAWH HMONG VOWEL KEEBwVuIBvVuAUBwVuUBvVuEBvVuAIBwVuOOBwVuAWBwVuUABwVuOBvVuIABwVuABvVuWBvVuAABwV",
    "nCONSONANT VAUx#NTSx#Lx#Hx#NLx#Rx#NKx#QHx#Yx#HLx#Mx#CHx%Nx#HNx#PLHx$NTy#x#x#Xx#CnMARK CIM TUBwSOwKESxHAVwSUAM",
    "wHOMwTAUMnSIGN VOS THOMxSHAB CEEBsCIM CHEEMsVOS THIABwFEEMsXYEEM NTXIVyRHOyTOVyFAIBsVOS SEEVsMEEJ SUABsVOS NRUA",
    "sIB YAMsXAUSsCIM TSOV ROG"]),
  (0x16B50, ["aPAHAWH HMONG DIGIT ZEROtONEtTWOuHREEtFOURuIVEtSIXuEVENtEIGHTtNINE_nNUMBER TENSuHUNDREDSu#TEN THOUSAN",
    "uMILLIONSt+ HUNDREDu)TEN Bv)R_nSIGN VOS LUBsXYOOsHLIr% THIRD-STAGEsZWJ THAJsHNUBsNQIGsXIABsNTUJsAVsTXHEEJ CEEV",
    "sMEEJ TSEEBsTAUsLOSsMUSsCIM HAIS LUS NTOG NTOGwCUAM TSHOOJwTXWVy#WV CHwPUB DAWBwNRES TOS_____nCLAN SIGN TSHEEJ",
    "xYEEGxLISyAUJxXYOOJxKOOxHAWJxMUASxTHOJySABx#PHx$KxHAMxVAJx#Fx#YxTSWBxKWMxVWJ"]),
  (0x16E40, ["aMEDEFAIDRIN CAPITAL LETTER MzcSzcV~zcATIUzcZzcKPzcPzcTzcGzcFzcIzcKzcAzcJzcEzcB~zcUzcYUzcLzcQzcHPzcNY",
    "zcXzcDzcOEzcNzcRzcOzcAIzcYmSMALL LETTER MzSzV~zATIUzZzKPzPzTzGzFzIzKzAzJzEzB~zUzYUzLzQzHPzNYzXzDzOEzNzRzOzAIzY",
    "mDIGIT ZEROsONEsTWOtHREEsFOURtIVEsSIXtEVENsEIGHTsNINEmNUMBER TENt#ELEVtTWELVEuHIRTEENt&FOUu%IFt%SIXu%EVENt%EIGH",
    "t%NINEmDIGIT ONE ALTERNATE FORMs=TWOt=HREEmCOMMAmFULL STOPmSYMBOL AIVAmEXCLAMATION OH"]),
  (0x16F00, ["aMIAO LETTER PAmBAmYI PAmPLAmMAnHAmARCHAIC MAmFAmVAnFAmTAmDAmYI TTAp#m#TmDDAmNAnHAmYI NNAm#ARCHAIC m#N",
    "oHAmLAnYAnHAoYAmTLHAm$DmTLHYAm%DmKAmGAmYI KAmQAnGAm#NoHAmARCHAIC NGAmHAmXAmGHAn#HmTSSAmDZZAmNYAoHAm#TSm#DZ",
    "m#YI TSp#DZm#REFORMED TSm$nSAmZHAn#SmTSAmDZAmYI TSAm#mZAnSAnZAoSAmARCHAIC ZZAmZZYAo#SmWAmAHmHHAmBRImSYIm#DZmTE",
    "nSEmRTE____fSIGN CONSONANT MODIFIER BARfLETTER NASALIZATIONf&SIGN ASPIRkREFORMED VOICINGtASPIRATIONfVOWEL SIGN A",
    "rArHHrNsGqOrOqWOqWqErNsGqOEYqIrAsNtGrOrErIrUrNGqUrAsNtGrUrEIrNGqYrIqAEsEqERRp% ROUNDEDqERp$ ROUNDEDqAIqEIqAUqOU",
    "qNrGqUOGqYUIqOGrERqVWqIGqEAqIONGqUI_______fTONE RIGHTj( TOPkABOVEkBELOWfLETTER TONE-2~~~~~~mREFORMED TONE-1~z-4~",
    "~z-8"]),
  (0x16FE0, ["aTANGUT ITERATION MARKa=NUSHUa&OLD CHINESE HOOKm&ITERATIONaKHITAN SMALL SCRIPT FILLER"]),
  (0x16FF0, ["aVIETNAMESE ALTERNATE READING MARK CAzjNHAY"]),
  (0x18800, ["aTANGUT COMPONENT-001~~~~~~~~s10~~~~~~~~~s20~~~~~~~~~s30~~~~~~~~~s40~~~~~~~~~s50~~~~~~~~~s60~~~~~~~~~",
    "s70~~~~~~~~~s80~~~~~~~~~s90~~~~~~~~~r100~~~~~~~~~s10~~~~~~~~~s20~~~~~~~~~s30~~~~~~~~~s40~~~~~~~~~s50~~~~~~~~~s60",
    "~~~~~~~~~s70~~~~~~~~~s80~~~~~~~~~s90~~~~~~~~~r200~~~~~~~~~s10~~~~~~~~~s20~~~~~~~~~s30~~~~~~~~~s40~~~~~~~~~s50~~~",
    "~~~~~~s60~~~~~~~~~s70~~~~~~~~~s80~~~~~~~~~s90~~~~~~~~~r300~~~~~~~~~s10~~~~~~~~~s20~~~~~~~~~s30~~~~~~~~~s40~~~~~~",
    "~~~s50~~~~~~~~~s60~~~~~~~~~s70~~~~~~~~~s80~~~~~~~~~s90~~~~~~~~~r400~~~~~~~~~s10~~~~~~~~~s20~~~~~~~~~s30~~~~~~~~~",
    "s40~~~~~~~~~s50~~~~~~~~~s60~~~~~~~~~s70~~~~~~~~~s80~~~~~~~~~s90~~~~~~~~~r500~~~~~~~~~s10~~~~~~~~~s20~~~~~~~~~s30",
    "~~~~~~~~~s40~~~~~~~~~s50~~~~~~~~~s60~~~~~~~~~s70~~~~~~~~~s80~~~~~~~~~s90~~~~~~~~~r600~~~~~~~~~s10~~~~~~~~~s20~~~",
    "~~~~~~s30~~~~~~~~~s40~~~~~~~~~s50~~~~~~~~~s60~~~~~~~~~s70~~~~~~~~~s80~~~~~~~~~s90~~~~~~~~~r700~~~~~~~~~s10~~~~~~",
    "~~~s20~~~~~~~~~s30~~~~~~~~~s40~~~~~~~~~s50~~~~~~~~~s60~~~~~~~~"]),
  (0x1AFF0, ["aKATAKANA LETTER MINNAN TONE-2~~~_zd7~xNASALIZED TONE-1~~~~_zn7~_qARCHAIC EaHIRAGANA LETTER ARCHAIC YE",
    "bENTAIGANA LETTER A-1~~uWOsI-1~~~sU-1~~~~sE-2~~~~sO-1~~sKA-1~~~~~~~~v10~vKEtI-1~~~~~~~tU-1~~~~~~tE-1~~~~~tO-1~~",
    "vKIsSA-1~~~~~~~tI-1~~~~~tU-1~~~~~~~tE-1~~~~tO-1~~~~~~sTA-1~~~tI-1~~~~~~tU-1~~~vTOtE-1~~~~~~~~tO-1~~~~~vRAsNA-1~~",
    "~~~~~~tI-1~~~~~~vTEtU-1~~tE-1~~~~~vKOtO-1~~~~sHA-1~~~~~~~~v10~tI-1~~~~~~tU-1~~tE-1~~~~~~tO-1~~~~~~~sMA-1~~~~~~",
    "tI-1~~~~~~tU-1~~~tE-1~vMAtO-1~~~~~sYA-1~~~~vYOtU-1~~~tO-1~~~~~sRA-1~~~tI-1~~~~~~tU-1~~~~~tE-1~~~tO-1~~~~~sWA-1~~",
    "~~tI-1~~~~tE-1~~~tO-1~~~~~~sN-MU-MO-1~bIRAGANA LETTER ARCHAIC WUaKATAKANA LETTER ARCHAIC YIzEyWU"]),
  (0x1B150, ["aHIRAGANA LETTER SMALL WIxExO"]),
  (0x1B164, ["aKATAKANA LETTER SMALL WIxExOwN"]),
  (0x1BC00, ["aDUPLOYAN LETTER HqXqPqTqFqK~qBqDqVqGqRqP NqD SqF NqK MqR SqTHqSLOAN DHp$qKKqSLOAN JqHLqLHqRHqM~qJqS",
    "qM NqN Mq#JqS JqM WITH DOTq+Nq+JzTS INSIDE AND ABOVEqS WITH DOTzT BELOWqM Sq#Nq#Jq#Sq#M Nq#N Mq%Jq#S J",
    "qJ S WITH DOTsNt SqS Tt RsPt RqT Sr# RqWrHr RqS NsMqK R Sq%GqS Kt RqAqSLOAN OWqOAqOqAOUqIqEqIEqSHORT IqUIqEE",
    "qSLOAN EHqROMANIAN IqSLOAN EEqLONG IqYEqUqEUqXWqU NqLONG Uq#ROMANIANqUHqSLOAN UqOOHrWrUqWArOrIrEIrOWqNASAL UwOwI",
    "wAqPERNIN ANyMqSLOAN ENwANwONqVOCALIC M_____jAFFIX LEFT HORIZONTAL SECANTp@MIDp@RIGHTp+LOW VERTICp>MIDp>HIGH",
    "p)ATTACHEDx) LEFT-TO-RIGHTy#TANGEzAILyE HOOKy&Iy&TANGENT___pHIGH ACUTEt( TIGHTuGRAVEt( LONGuDOTuCIRCLEuLINEuWAVE",
    "uVERTICAL_______pLOW ACUTEs( TIGHTtGRAVEs( LONGtDOTtCIRCLEtLINEtWAVEtVERTICALtARROW__jSIGN O WITH CROSS",
    "jTHICK LETTER SELECTORjDOUBLE MARKjPUNCTUATION CHINOOK FULL STOPaSHORTHAND FORMAT LETTER OVERLAPr*CONTINUING",
    "rDOWN STEPr&UP"]),
  (0x1CF00, ["aZNAMENNY COMBINING MARK GORAZDO NIZKO S KRYZHEM ON LEFTx|#y*TSATAy*GORAZDO NIZKOx<y*SREDNE",
    "y+MALO POVYSHx>y*VYSOKOy*MALO POVYSHE S KHOKHLOMx|&y[VYSOKOyGORAZDO NIZKO S KRYZHEM ON RIGHTx|$y+TSATA",
    "y+GORAZDO NIZKOx=y+SREDNEy,MALO POVYSHx?y+VYSOKOy+MALO POVYSHE S KHOKHLOMx|(y]VYSOKOyTSATA S KRYZHEM",
    "y,MALO POVYSHEySTRANNO MALO POVYSHEyPOVYSHE S KRYZHEMziTRANNOyVYSOKO S KRYZHEMyMALO POVYSHE STRANNO",
    "yGORAZDO VYSOKOyZELOyONyRAVNOyTIKHAYAy$BORZyUDARKAy#PODVERTy#LOMyKUPNAYAzACHKAyZEVOKySKOBAyRAZSEKAyKRYZH ON LEFT",
    "__tTONAL RANGE MARK MRACHNOzlSVETLOzl(TREtMARK ZADERZHKAx, DEMESTVENNYy$OTSECyPODCHASHIEzj WITH VERTICAL STROKE",
    "yCHASHKAzg POLNAYAyOBLACHKOySOROCHYA NOZHKAy$TOCyDVOETOCHIEtATTACHING VERTICAL OMETt&MARK CURVEDyKRYZH",
    "tLOWER TONAL RANGE INDICATORjPRIZNAK MODIFIER LEVEL-2~z DIRECTION FLIPz KRYZHz ROG"]),
  (0x1CF50, ["aZNAMENNY NEUME KRYUKu TIKHYpPARAKLITpDVA V CHELNUpKLYUCHpZANOZHEKpSTOPITSAx S OCHKOMpPEREVODKA",
    "y NEPOSTOYANNAYApSTOPITSA WITH SOROCHYA NOZHKAp#CHELYUSTp#PALpZAPYATAYApGOLUBCHIK BORZYzTIKHYzMRACHNYzSVETLY",
    "z(TREpVRAKHIYA PROSTAYAy$MRACHNy$SVETLy*TREy$KLYUCHEVAYA PROSTzl$MRACHNzl$SVETLzl*TREp$DOUBLE ZAPYAT",
    "pREVERSED CHELYUSTKApDERBITSApKHAMILOpCHASHKApPODCHASHIEpSKAMEYTSA MRACHNAYAz$SVETLz*TREz$TIKH",
    "pDEMESTVENNY KLYUCHpSKAMEYTSA KLYUCHEVAYA SVETLAYAzh$NEPOSTOYANNzh$VAYA TIKHz$DVOECHELNAYA PROSTzn$SVETL",
    "zn$NEPOSTOYANNzn$KLYUCHEVqLOZHITIEy S ZAPYATOYzZAKRYTOEzS KRYZHEMpKRYZHpROGpFITApKOBYLApZMEYTSApSTATYA",
    "v S ZAPYATOYyKRYZHEMx* ZAPYATOY IyKRYZHEM I ZAPYATOYwZAKRYTAYAzg S ZAPYATOYwS ROGOMyDVUMYA ZAPYATYMI",
    "yZAPYATOY I PODCHASHIEMpPOLKULIZMYpSTATYA NEPOSTOYANNAYAr$RELA PROSTw$MRACHNOTIKHw$KRYZHEVw$POLUPOVODNw+",
    "w%NEPOSTOYANw%KLYUCHEPOVODze%NEPOSTOYANw%TIKHAYA PUTw%DVOECHELzg$OKRYZHEVzh$POVODNzg$AYA KLYUCHEVzf>NOPOVOD",
    "w$GROMNAYA WITH SINGLE ZAPYATz|%MOPOVODz$MNz%MOPOVODzl WITH DOUBLE ZAPYATAYAzc$KRYZHEVzm POVODNAYApMECHIK",
    "v POVODNYwKLYUCHEVOYzePOVODNYze#NEPOSTOYANpSTRELA TRYASOGLASNAYAzd%POVODzd%STRELpOSOKAu SVETLAYAv*TRE",
    "v*KRYUKOVAYA w;LYUCHEzi$NEPOSTOYANNp$STRELA KRYUKOVzh POVODNAYAzi$GROMNAYA WITH SINGLE ZAPYATzm|%OPOVODzm$N",
    "zm%OPOVODzw WITH DOUBLE ZAPYATAYAzn$KRYZHEVzx POVODNAYAziTRYASKApKUFISMApOBLAKOpDUDApNEMKApPAUK"]),
  (0x1D000, ["aBYZANTINE MUSICAL SYMBOL PSILIzDASEIAzPERISPOMENIzOXEIA EKFONITIKONzgDIPLIzVAREIA EKFONITIKONzhDIPLI",
    "zKATHISTIzSYRMATIKIz%PARAKLIzYPOKRISISzj DIPLIzKREMASTIzAPESO EKFONITIKONz;EXzTELEIAzKENTIMATAzAPOSTROFOS",
    "zk DIPLIzSYNEVMAzTHITAzOLIGON ARCHAIONz:GORz#PSILz%CHAMzVATHYzISON ARCHAIONz+KENTIMAzg,ATzSAXIMATAzPARICHON",
    "zSTAVROS APODEXIAzOXEIAI ARCHAIONz;VARz+APODERMAzdTHEMAz#KLASz#REVzPIASMA ARCHAIONzTINAGMAz#ANATRICHISz%SE",
    "zSYNAGMA ARCHAIONziMETA STAVROUzOYRANISMA ARCHAIONzTHEMAzLEMOIzDYOzTRIAzTESSERAzKRATIMATAzAPESO EXO NEO",
    "zFTHORA ARCHAIONzIMIFTHORAzTROMIKON ARCHAIONz#KATAVA TROMIKz#PELASTz%PSIFIzKONTEVMAzCHOREVMA ARCHAIONzRAPISMA",
    "zPARAKALESMA ARCHAIONzf+LITIKIzICHADINzNANAzPETASMAzKONTEVMA ALLOz&TROMIKONzSTRAGGISMATAz(GRONTHzISON NEOz(OLIG",
    "z%OXEIAzPETASTIzKOUFISMAz*PETASTOz+KRATIMzPELASTON NEOzKENTIMATA NEO ANOzg+zYPSILIzAPOSTROFOS NEOzi(OI SYNDESM",
    "zYPORROIzKRATIMOYPORROONz#ELAFRzCHAMILIzMIKRON ISONzVAREIA NEOz&PIASMz%PSIFISTONzOMALONzANTIKENOMAz#LYGIS",
    "zPARAKLITIKI NEOzf%ALESMAzETERON PARAKALESMAz$KYLIz)ANTIKENOzTROMIKON NEOzEKSTREPTONzSYNAGMA NEOzcRMA",
    "zCHOREVMA NEOzEPEGERMAzSEISMA NEOzXIRON KLASMAzTROMIKOPSIFISTONzPSIFISTOLYGISMAz*TROMIKzh$PARAKALEz:PSIFIST",
    "z#TROMIKOSYNAGz*PSIFISTzGORGOSYNTHETONz:Ay< ETERONzOYRANISMA NEOzTHEMATISMOS ESOznXOzf APLOUNzdS KAI APOTHES",
    "zKATAVASMAzENDOFONONzYFEN KATOzfANOzSTAVROSzKLASMA ANOzDIPLI ARCHAIONz+KRATIMAzjLLOziNEOz(APODERzcLIz$DIz%TR",
    "z$TETRAzKORONISzLEIMMA ENOS CHRONOUzhDYO CHRONONzh*TRIONzi,ESSARzhIMISEOS CHRONOUzGORGON NEO ANO",
    "zhPARESTIGMENON ARISTERAzvDEXIAzDIGORGONzi PARESTIGMENON ARISTERA KATOzzhANOzxDEXIAzTRIGORGONz%Az&IMIDIz)",
    "zAGOGI POLI ARGIzgARGOTERIzjIzgMETRIAziSIzgGORGIzkOTERIzgPOLI GORGIzMARTYRIA PROTOS ICHOSzi; ALLIzj*DEYTER",
    "zi= ALLIzj*TRITzmFONIASzkETARTOS ICHOSzo+TOS LEGEzi<zj*PLAGIz#ISAKIA TELOUS ICHIMATz?APOSTROFOI",
    "zFANEROSIS TETRAFONIASzk(MONOzk(DIzMARTYRIA VARYS ICHOSzj.PROTOzk)LAGIOS TETARTOzGORTHMIKON N APLOUNzn&DI",
    "zENARXIS KAI FTHORA VOUzIMIFONONze#THORzFTHORA ARCHAION DEYTEROU ICHOUzhDIATONIKI PAzrNANAzhNAOS ICHOS",
    "zhDIATONIKI DIzh$SKLIRON DIATONONzhDIATONIKI KEzrZOzrNI KATOzuANOzhMALAKON CHROMA DIFONIASzw(MONO",
    "zFHTORA SKLIRON CHROMA VASISzFTHORA SKLIRON CHROMA SYNAFIzhNENANOzCHROA ZYGOSzgKLITONzgSPATHI",
    "zFTHORA I YFESIS TETARTIMORIONzhENARMONIOS ANTIFONIAzYFESIS TRITIMORIONz>DIzi*ETARzhAPLI DYO DODEKATA",
    "zh+MONOGRAMMOS TESSERAzh+DIGRAMMOS EXzh+TRIGRAMMOS OKTOz,YFESIS APLI DYzh+MONOGRAMMOS TESSERAzh+DIGRAMMOS EX",
    "zh+TRIGRAMMOS OKTOzGENIKI DIESISzh%YFzDIASTOLI APLI MIKRIzpEGALIzj#DIPzjTHESEOSz*SIMANSISzq DISIMOUzr(TRzs&ETRA",
    "zjARSEOSzp DISIMOUzq(TRzr&ETRAzDIGRAMMA GGzcFTOGGOS OUzSTIGMAzARKTIKO PAziVOUziGAziDIziKEziZOziNI",
    "zKENTIMATA NEO MESOzg,zhTA NEO KATOzg,z&KLASMAz&GORGON NEO"]),
  (0x1D100, ["aMUSICAL SYMBOL SINGLE BARLINEp,DOUBp*FINALo< REVERSEp*DASHEDp*SHORTpLEFT REPEAT SIGNp;RIGHqEPEAT DOTS",
    "pDAL SEGNOr CAPOpSEGNOpCODApREPEATED FIGURE-1~~pFERMATAw BELOWpBREATH MARKpCAESURApBRACEtKETpONE-LINE STAFFp.TWO",
    "q.HREEp.FOURq.IVEp.SIXtSTRING FRETBOARDp?FOURpG CLEFv OTTAVA ALTAzeBASSApC CLEFp&Fv OTTAVA ALTAzeBASSA",
    "pDRUM CLEF-1~__pMULTIPLE MEASURE RESTpDOUBLE SHARPwFLATpFLAT UPuDOWNpNATURAL UPxDOWNpSHARP UPvDOWN",
    "pQUARTER TONE SHARPzdFLATpCOMMON TIMEq&UTpOTTAVA ALTAwBASSApQUINDICESIMA ALTAzdBASSApMULTI RESTp&WHOLEp&HALF",
    "p&QUARTERp&EIGHTHp)SIXTEENp&THIRTY-SECONDp&SIXTY-FOURTHp)ONE HUNDRED TWENTY-EIGHpX NOTEHEADp+PLUSp+CIRCLE X",
    "pSQUARE NOTEHEAD WHITEzgBLACKpTRIANGLE NOTEHEAD UP WHITEzlBLACKziLEFT WHITEznBLACKziRIGHT WHITEzoBLACK",
    "ziDOWN WHITEznBLACKziUP RIGHT WHITEzrBLACKpMOON NOTEHEAD WHITEzeBLACKpTRIANGLE-ROUND NOTEHEAD DOWN WHITEztBLACK",
    "pPARENTHESIS NOTEHEADp+VOIDpNOTEHEAD BLACKqULL NOTEHEADpCLUSTER NOTEHEAD WHITEzhBLACKpBREVEpWHOLE NOTEp&HALF",
    "p&QUARTERp&EIGHTHp)SIXTEENp&THIRTY-SECONDp&SIXTY-FOURTHp)ONE HUNDRED TWENTY-EIGHpCOMBINING STEMw)NG SPRECHGESA",
    "zTREMOLO-1~~pFINGERED TREMOLO-1~~pCOMBINING AUGMENTATION DOTzFLAG-1~~~~pBEGIN BEAMp&ENDpBEGIN TIEp%END",
    "pBEGIN SLURp&ENDpBEGIN PHRASEp)ENDpCOMBINING ACCENTzSTACCATOz#TENUzSTACCATISSIMOzMARCATOzh-STACCATOz+ACCENT",
    "zLOUREpARPEGGIATO UPz DOWNpCOMBINING DOITzRIPz#FLzSMEARzBENDzDOUBLE TONGUEz+TRIPpRINFORZANDOpSUBITOpZpPIANO",
    "pMEZZOpFORTEpCRESCENDOp+DEpGRACE NOTE SLASHz( NOpTRqURNo& INVERTEDpTURN SLASHuUPpORNAMENT STROKE-1~~~~~~~~zg10~",
    "pHAUPTSTIMMEp(NEBENp(END OF pDEGREE SLASHpCOMBINING DOWN BOWz%UPzHARMONICzSNAP PIZZICATOpPEDAL MARKu& UP",
    "p&HALF PEDALpGLISSANDO UPzDOWNpWITH FINGERNAILSpDAMPt ALLpMAXIMApLONGApBREVISpSEMIBREVIS WHITEz BLACKpMINIMA",
    "v BLACKpSEMIMINIMA WHITEz BLACKpFUSA WHITEuBLACKpLONGA PERFECTA RESTv;IMp&BREVISp.SEMIp&MINIMAp.SEMI",
    "pTEMPUS PERFECTUM CUM PROLATIONE PERFECTAzw*IMzwPERFECTA DIMINUTION-1wIMPERFECTUM CUM PROLATIONE PERFECTAzy*IM",
    "zzj DIMINUTION-1~~pCROIXpGREGORIAN C CLEFz&FpSQUARE BpVIRGApPODATUSpCLIVISpSCANDICUSp$CLIMAp#TORCULp#PORRECT",
    "y FLEXUSp+SCANDICp#TORCULUS RESUPINpPES SUBPUNCTISpKIEVAN C CLEFwEND OF PIECEwFINAL NOTEwRECITATIVE MARK",
    "wWHOLE NOTEw&HALFwQUARTER NOTE STEM DOWNzpUPwEIGHTH NOTE STEM DOWNzoUPwFLAT SIGNpSORIpKORON"]),
  (0x1D200, ["aGREEK VOCAL NOTATION SYMBOL-1~~~~~~~~zd10~~~~~~~~~zd20~~~~zd50~~~~gINSTRUMENTAL NOTATION SYMBOL-1~zk4",
    "~zk7~zk11~~~zl7~~zk23~~~~zl9zk30zl2zl6~~~zk40zl2~zl5zl7~~zk50~~~~aCOMBINING GREEK MUSICAL TRISEMEz%ETRAy&PENT",
    "aGREEK MUSICAL LEIMMA"]),
  (0x1D2E0, ["aMAYAN NUMERAL ZEROoONEoTWOpHREEoFOURpIVEoSIXpEVENoEIGHToNINEoTENo#ELEVoTWELVEpHIRTEENo&FOUp%IFo%SIX",
    "p%EVENo%EIGHo%NINE"]),
  (0x1D300, ["aMONOGRAM FOR EARTHa(DIGRAM FOR HEAVENLYm(UMANlEARTHLY HEAVENuUMANpHaTETRAGRAM FOR CENTREoFULL CIRCLE",
    "oMIREDoBARRIERoKEEPING SMALLoCONTRARIETYoASCENToOPPOSITIONoBRANCHING OUToDEFECTIVENESS OR DISTORTIONpIVERGENCE",
    "oYOUTHFULNESSoINCREASEoPENETRATIONoREACHoCONTACToHOLDING BACKoWAITINGo$FOLLOWoADVANCEoRELEASEqSISTANCEoEASEoJOY",
    "oCONTENTIONoENDEAVOURoDUTIESoCHANGEoDECISIVENESSoBOLD RESOLUTIONoPACKINGoLEGIONoCLOSENESSoKINSHIPoGATHERING",
    "oSTRENGTHoPURITYoFULLNESSoRESIDENCEoLAW OR MODELoRESPONSEoGOING TO MEEToENCOUNTERSoSTOVEoGREATNESSoENLARGEMENT",
    "oPATTERNoRITUALoFLIGHToVASTNESS OR WASTINGoCONSTANCYoMEASUREoETERNITYo%UoDIMINISHMENToCLOSED MOUTHoGUARDEDNESS",
    "pATHERING INoMASSINGoACCUMULATIONoEMBELLISHMENToDOUBToWATCHoSINKINGoINNERoDEPARTUREpARKENINGp$IMMoEXHAUSTION",
    "oSEVERANCEpTOPPAGEoHARDNESSoCOMPLETIONpLOSUREo$FAILoAGGRAVATIONoCOMPLIANCEoON THE VERGEoDIFFICULTIESoLABOURING",
    "o%FOSTE"]),
  (0x1D360, ["aCOUNTING ROD UNIT DIGIT ONEyTWOzHREEyFOURzIVEySIXzEVENyEIGHTyNINEn#TENS DIGIT OyTWOzHREEyFOURzIVEySIX",
    "zEVENyEIGHTyNINEa#IDEOGRAPHIC TALLY MARK OxTWOyHREExFOURyIVEaTALLY MARK ONElFIVE"]),
  (0x1D400, ["aMATHEMATICAL BOLD CAPITAL A~~~~~~~~~~~~~~~~~~~~~~~~~sSMALL A~~~~~~~~~~~~~~~~~~~~~~~~~",
    "nITALIC CAPITAL A~~~~~~~~~~~~~~~~~~~~~~~~~uSMALL A~~~~~~_z I~~~~~~~~~~~~~~~~~nBOLD ITALIC CAPITAL A~~~~~~~~~~~~~",
    "~~~~~~~~~~~~zSMALL A~~~~~~~~~~~~~~~~~~~~~~~~~nSCRIPT CAPITAL A_zdC~__zdG__zdJ~__zdN~~~_zdS~~~~~~~uSMALL A~~~_z F",
    "_z H~~~~~~_z P~~~~~~~~~~nBOLD SCRIPT CAPITAL A~~~~~~~~~~~~~~~~~~~~~~~~~zSMALL A~~~~~~~~~~~~~~~~~~~~~~~~~",
    "nFRAKTUR CAPITAL A~_zeD~~~__zeJ~~~~~~~_zeS~~~~~~_vSMALL A~~~~~~~~~~~~~~~~~~~~~~~~~nDOUBLE-STRUCK CAPITAL A~_zkD~",
    "~~_zkI~~~~_zkO___zkS~~~~~~_zcSMALL A~~~~~~~~~~~~~~~~~~~~~~~~~nBOLD FRAKTUR CAPITAL A~~~~~~~~~~~~~~~~~~~~~~~~~",
    "z SMALL A~~~~~~~~~~~~~~~~~~~~~~~~~nSANS-SERIF CAPITAL A~~~~~~~~~~~~~~~~~~~~~~~~~ySMALL A~~~~~~~~~~~~~~~~~~~~~~~~",
    "~yBOLD CAPITAL A~~~~~~~~~~~~~~~~~~~~~~~~~zeSMALL A~~~~~~~~~~~~~~~~~~~~~~~~~yITALIC CAPITAL A~~~~~~~~~~~~~~~~~~~~",
    "~~~~~zgSMALL A~~~~~~~~~~~~~~~~~~~~~~~~~yBOLD ITALIC CAPITAL A~~~~~~~~~~~~~~~~~~~~~~~~~zlSMALL A~~~~~~~~~~~~~~~~~",
    "~~~~~~~~nMONOSPACE CAPITAL A~~~~~~~~~~~~~~~~~~~~~~~~~xSMALL A~~~~~~~~~~~~~~~~~~~~~~~~~nITALIC SMALL DOTLESS I~__",
    "nBOLD CAPITAL ALPHAz BETAz GAMMAz DELTAz EPSILONz ZETAz$ z$ THz# IOz KAPPAz LAMDAz MUz NUz XIz OMICRONz PIz RHO",
    "z THETA SYMBOLz SIGMAz TAUz UPSILONz PHIz# Cz PSIz OMEGAsNABLAsSMALL ALPHAyBETAyGAMMAyDELTAyEPSILONyZETAy$y$TH",
    "y#IOyKAPPAyLAMDAyMUyNUyXIyOMICRONyPIyRHOyFINAL SIGMAw)yTAUyUPSILONyPHIy#CyPSIyOMEGAsPARTIAL DIFFERENTIAL",
    "sEPSILON SYMBOLs)THETAs*KAPPs)PHIs)RHOs)PInITALIC CAPITAL ALPHAzdBETAzdGAMMAzdDELTAzdEPSILONzdZETAzd$zd$THzd#IO",
    "zdKAPPAzdLAMDAzdMUzdNUzdXIzdOMICRONzdPIzdRHOzdTHETA SYMBOLzdSIGMAzdTAUzdUPSILONzdPHIzd#CzdPSIzdOMEGAuNABLA",
    "uSMALL ALPHAz BETAz GAMMAz DELTAz EPSILONz ZETAz$ z$ THz# IOz KAPPAz LAMDAz MUz NUz XIz OMICRONz PIz RHO",
    "z FINAL SIGMAy)z TAUz UPSILONz PHIz# Cz PSIz OMEGAuPARTIAL DIFFERENTIALuEPSILON SYMBOLu)THETAu*KAPPu)PHIu)RHO",
    "u)PInBOLD ITALIC CAPITAL ALPHAziBETAziGAMMAziDELTAziEPSILONziZETAzi$zi$THzi#IOziKAPPAziLAMDAziMUziNUziXI",
    "ziOMICRONziPIziRHOziTHETA SYMBOLziSIGMAziTAUziUPSILONziPHIzi#CziPSIziOMEGAzNABLAzSMALL ALPHAzgBETAzgGAMMAzgDELTA",
    "zgEPSILONzgZETAzg$zg$THzg#IOzgKAPPAzgLAMDAzgMUzgNUzgXIzgOMICRONzgPIzgRHOzgFINAL SIGMAze)zgTAUzgUPSILONzgPHIzg#C",
    "zgPSIzgOMEGAzPARTIAL DIFFERENTIALzEPSILON SYMBOLz)THETAz*KAPPz)PHIz)RHOz)PInSANS-SERIF BOLD CAPITAL ALPHAzmBETA",
    "zmGAMMAzmDELTAzmEPSILONzmZETAzm$zm$THzm#IOzmKAPPAzmLAMDAzmMUzmNUzmXIzmOMICRONzmPIzmRHOzmTHETA SYMBOLzmSIGMAzmTAU",
    "zmUPSILONzmPHIzm#CzmPSIzmOMEGAzeNABLAzeSMALL ALPHAzkBETAzkGAMMAzkDELTAzkEPSILONzkZETAzk$zk$THzk#IOzkKAPPAzkLAMDA",
    "zkMUzkNUzkXIzkOMICRONzkPIzkRHOzkFINAL SIGMAzi)zkTAUzkUPSILONzkPHIzk#CzkPSIzkOMEGAzePARTIAL DIFFERENTIAL",
    "zeEPSILON SYMBOLze)THETAze*KAPPze)PHIze)RHOze)PIzeITALIC CAPITAL ALPHAztBETAztGAMMAztDELTAztEPSILONztZETAzt$",
    "zt$THzt#IOztKAPPAztLAMDAztMUztNUztXIztOMICRONztPIztRHOztTHETA SYMBOLztSIGMAztTAUztUPSILONztPHIzt#CztPSIztOMEGA",
    "zlNABLAzlSMALL ALPHAzrBETAzrGAMMAzrDELTAzrEPSILONzrZETAzr$zr$THzr#IOzrKAPPAzrLAMDAzrMUzrNUzrXIzrOMICRONzrPIzrRHO",
    "zrFINAL SIGMAzp)zrTAUzrUPSILONzrPHIzr#CzrPSIzrOMEGAzlPARTIAL DIFFERENTIALzlEPSILON SYMBOLzl)THETAzl*KAPPzl)PHI",
    "zl)RHOzl)PInBOLD CAPITAL DIGAMMAs+SMAL__sDIGIT ZEROyONEyTWOzHREEyFOURzIVEySIXzEVENyEIGHTyNINE",
    "nDOUBLE-STRUCK DIGIT ZEROziONEziTWOzjHREEziFOURzjIVEziSIXzjEVENziEIGHTziNINEnSANS-SERIF DIGIT ZEROzfONEzfTWO",
    "zgHREEzfFOURzgIVEzfSIXzgEVENzfEIGHTzfNINEyBOLD DIGIT ZEROzkONEzkTWOzlHREEzkFOURzlIVEzkSIXzlEVENzkEIGHTzkNINE",
    "nMONOSPACE DIGIT ZEROzeONEzeTWOzfHREEzeFOURzfIVEzeSIXzfEVENzeEIGHTzeNINEaSIGNWRITING HAND-FIST INDEXr(CIRCLEs(UP",
    "r(OVALr(HINGEr)ANGLrFIST INDEX BENTr.CIRCLEr.FIST THUMB UNDERwINDEX RAISED KNUCKLEzdCUPPEDzd#HINGzj LOW",
    "rCIRCLE INDEX HINGErFIST INDEX MIDDLEr;CIRCLErFIST INDEX MIDDLE BENTzkRAISED KNUCKLESzkHINGEDzc< UP",
    "zdHINGED MIDDLE UPzdMIDDLE CONJOINEDzt INDEX BENTzu&MIDDLEzuCUPPEDzu#HINGzl#ROSSr^CIRCLE",
    "rFIST MIDDLE BENT OVER INDEXwINDEX BENT OVER MIDDLEzdMIDDLE THUMBr[CIRCLErFIST INDEX MIDDLE STRAIGHT THUMB BENT",
    "zkBENT THUMB STRAIGHTzkTHUMB BENTzkHINGED SPREAD THUMB SIDEzd:UP MIDDLE HINGEzz CONJOINED",
    "zdHINGED MIDDLE UP THUMB SIDEzdMIDDLE UP SPREAD THUMB FORWARDzkTHUMB CUPPEDzr#IRCLzq#HOOKzr#ING",
    "wTHUMB BETWEEN INDEX MIDDLE STRAIGHTwINDEX MIDDLE CONJOINED THUMB SIDEzzf CONJOINEDzzgBENT",
    "wMIDDLE THUMB HOOKED INDEX UPw$INDEX THUMB HOOKED MIDDLEzdMIDDLE CONJOINED HINGED THUMB SIDEzl;ROSS",
    "zlONJOINED THUMB FORWARDzr>ED CUPPwMIDDLE THUMB CUPPED INDEX UPw$INDEX THUMB CUPPED MIDDLE",
    "w$MIDDLE THUMB CIRCLED INDEXzyHINGEDwINDEX THUMB ANGLED OUT MIDDLE UPzq,INzj,CIRCLED",
    "zdMIDDLE THUMB CONJOINED HINGEDzqANGLED OUTzvDwMIDDLE THUMB ANGLED OUT INDEX UPzzcCROSSEDzrINDEX UP",
    "wINDEX THUMB HOOKED MIDDLE HINGEDsLAT FOUR FINGERSzj BENTzkHINGEDzk#CONJOINzt SPLITrCLAW FOUR FINGERS CONJOINED",
    "rFIST FOUR FINGERS CONJOINED BENTrHINGE FOUR FINGERS CONJOINEDrFLAT FIVE FINGERS SPREADv] HEEL",
    "wFIVE FINGERS SPREAD FOUR BENTv|* HEELw&FIVE FINGERS SPREADv|$ HEELwFIVE FINGERS SPREAD THUMB FORWARD",
    "rCUP FIVE FINGERS SPREADzp OPENr|$HINGErOVAL FIVE FINGERS SPREADrFLAT FIVE FINGERS SPREAD HINGEDzx THUMB SIDE",
    "zyNO THUMBuTv BETWEEN PALM FACINGSwHEELwTHUMB SIDEv. HEELwTHUMB BENTzdFORWARDwSPLIT INDEX THUMB SIDEzdCENTRE",
    "zj THUMB SIDEzu BENTzdLITTLErCLAWv THUMB SIDEwNO THUMBwTHUMB FORWARDrHOOK CURLICUEuKrCUP OPENtPu OPEN THUMB SIDE",
    "u.vOPEN NO THUMBu+vOPEN THUMB FORWARDu<tRLICUE OPENyEsIRCLErOVALv THUMB SIDEwNO THUMBwTHUMB FORWARDrHINGE OPEN",
    "zc THUMB FORWARDvEw SMALLxOPEN THUMB SIDEw.xOPEN NO THUMBw+xTHUMB SIDE TOUCHING INDEXzeBETWEEN MIDDLE RINGrANGLE",
    "rFIST INDEX MIDDLE RINGr@CIRCLEr[HINGr[ANGLrHINGE LITTLErFIST INDEX MIDDLE RING BENTzpCONJOINEDr|(HINGE",
    "rFIST LITTLE DOWNzi RIPPLE STRAIGHTzqCURVEDzj#OTHERS CIRCLzeUPv, THUMB UNDERr,CIRCLEr,OVALr,ANGLE",
    "rFIST LITTLE RAISED KNUCKLEzeBENTzeTOUCHES THUMBzd(r;HINGEr(FIST LITTLE INDEXr[HINGE",
    "rANGLE LITTLE INDEX THUMB INDEX THUMB OUTzzcBrFIST LITTLE INDEXr;CIRCLEr<HINGr<ANGLrFIST INDEX MIDDLE LITTLE",
    "r]CIRCLEr^HINGxRINGrANGLE INDEX MIDDLE LITTLEr)FIST INDEX MIDDLE CROSSr|%CIRCLErFIST RING DOWN",
    "rHINGE RING DOWN INDEX THUMB HOOK MIDDLErANGLE RING DOWN MIDDLE THUMB INDEX CROSSrFIST RING UPzcRAISED KNUCKLE",
    "zc#LITTr:CIRCLEr:OVALr:ANGLEr#FIST RING MIDDzi CONJOINEDzjRAISED KNUCKLESzcINDEXzcTHUMBr.HOOK",
    "rFIST INDEX RING LITTLEr@CIRCLEsURLICUE INDEX RING LITTLE ONrHOOK INDEX RING LITTLE OUTzpINzpUNDER",
    "rCUP INDEX RING LITTLEr@HINGErANGLE INDEX RING LITTLE OUTzoErFIST MIDDLE DOWNrHINGE MIDDLErFIST MIDDLE UP",
    "r,CIRCLErFIST MIDDLE RAISED KNUCKLEzeUP THUMB SIDErHOOK MIDDLE THUMBrFIST MIDDLE THUMB LITTLEzd)zd) RINGr[CIRCLE",
    "sURLICUE MIDDLE RING LITTLE ONtP MIDDLE RING LITTLEr[HINGErANGLE MIDDLE RING LITTLE OUTzrINzpE",
    "rCIRCLE MIDDLE RING LITTLE BENTsLAW MIDDLE RING LITTLE CONJOINEDzz SIDErHOOK MIDDLE RING LITTLE CONJOINED OUT",
    "zz INzyDs#INGE INDEX HINGrFIST INDEX THUMB SIDEr?HINGErFIST INDEX THUMB SIDE THUMB DIAGONALzuCONJOINEDzuBENT",
    "zo&INDEXzo&BOTHzoINDEX HINGEzjFORWARD INDEX STRAIGHTzxBENTzjHOOKzjCURLICUEzmVE THUMB INSIDEr|+CLAW",
    "rFIST INDEX THUMB CURVE THUMB UNDERzkIRCLErCUP INDEX THUMBzh OPENr?HINGEzkLARGEziBzj SMALLrANGLE INDEX THUMB OUT",
    "zkINziBr(FISTzc HEELzdSIDE DIAGONALziCONJOINEDziBENTzdFORWARDzdBETWEEN INDEX MIDDLEzlMIDDLE RINGzlRING LITTLE",
    "zdUNDER TWO FINGERSzd<OVzd*UNDER THREEzj*FOURzdOVER FOUR RAISED KNUCKLESuTv HEELmTOUCH SINGLEs#MULTIPsBETWEEN",
    "mGRASP SINGLEs#MULTIPsBETWEENmSTRIKE SINGLEt#MULTIPtBETWEENmBRUSH SINGLEs#MULTIPsBETWEENmRUB SINGLEq#MULTIP",
    "qBETWEENmSURFACE SYMBOLSuBETWEENnQUEEZE LARGE SINGLEu)SMALLu#LARGE MULTIPu+SMALLvEQUENTIALmFLICK LARGE SINGLE",
    "s)SMALLs#LARGE MULTIPs+SMALLtEQUENTIALmSQUEEZE FLICK ALTERNATINGmMOVEMENT-HINGE UP DOWN LARGEzkSMALLzfSEQUENTIAL",
    "zc.DOWNzcUP DOWN ALTERNATING LARGEzwSMALLzcSIDE TO SIDE SCISSORSvWALLPLANE FINGER CONTACTv]FLOOR",
    "vWALLPLANE SINGLE STRAIGHT SMALLzwMEDIUMzwLARGEzzcSTznWRIST FLEXzgDOUBLE STRAIGHTznWRIST FLEXznALTERNATING",
    "zy WRIST FLEXzgCROSSzgTRIPLE STRAIGHT MOVEMENTznWRIST FLEXznALTERNATINGzy WRIST FLEXzgBEND SMALLzlMEDIUMzlLARGE",
    "zgCORNER SMALLznMEDIUMznLARGEznROTATIONzhHECK SMALLzmMEDIUMzmLARGEzgBOX SMALLzkMEDIUMzkLARGEzgZIGZAG SMALL",
    "znMEDIUMznLARGEzgPEAKS SMALLzmMEDIUMzmLARGEmTRAVEL-WALLPLANE ROTATION-WALLPLANE SINGLEzx#DOUBzxALTERNATING",
    "znFLOORPLANE SINGLEzy#DOUBzyALTERNATINGze$SHAKzeARM SPIRAL SINGLEzp#DOUBzp#TRIPmMOVEMENT-DIAGONAL AWAY SMALL",
    "zkMEDIUMzkLARGEzpSTzfTOWARDS SMALLznMEDIUMznLARGEzsSTzfBETWEEN AWAY SMALLzsMEDIUMzsLARGEzxSTznTOWARDS SMALL",
    "zvMEDIUMzvLARGEzzESTvFLOORPLANE SINGLE STRAIGHT SMALLzxMEDIUMzxLARGEzzdSTzoWRIST FLEXzhDOUBLE STRAIGHT",
    "zoWRIST FLEXzoALTERNATINGzz WRIST FLEXzhCROSSzhTRIPLE STRAIGHT MOVEMENTzoWRIST FLEXzoALTERNATING MOVEMENT",
    "zz WRIST FLEXzhBENDzhCORNER SMALLzoMEDIUMzoLARGEziHECKzhBOX SMALLzlMEDIUMzlLARGEzhZIGZAG SMALLzoMEDIUMzoLARGE",
    "zhPEAKS SMALLznMEDIUMznLARGEmTRAVEL-FLOORPLANE ROTATION-FLOORPLANE SINGLEzz#DOUBzzALTERNATINGzoWALLPLANE SINGLE",
    "zy#DOUBzyALTERNATINGzf$SHAKmMOVEMENT-WALLPLANE CURVE QUARTER SMALLzuMEDIUMzuLARGEzzSTzmHALF-CIRCLE SMALLzyMEDIUM",
    "zyLARGEzzeSTzmTHREE-QUARTER CIRCLE SMALLzziMEDIUMzgHUMP SMALLzlMEDIUMzlLARGEzgLOOP SMALLzlMEDIUMzlLARGE",
    "zlSMALL DOUBLEzgWAVE CURVE DOUBLE SMALLzyMEDIUMzyLARGEzrTRIPLE SMALLzyMEDIUMzyLARGEzgCURVE THEN STRAIGHT",
    "zlD CROSS SMALLztMEDIUMmROTATION-WALLPLANE SINGLEzg#DOUBzgALTERNATEmMOVEMENT-WALLPLANE SHAKING",
    "zgCURVE HITTING FRONT WALLzg[HUMPzg]LOOzg[WAVEm]ROTATION-WALLPLANE SINGLzg^DOUBzg[ALTERNATING",
    "mMOVEMENT-WALLPLANE CURVE HITTING CHESTzg<HUMPzg=LOOzg<WAVEm=ROTATION-WALLPLANE SINGLzg>DOUBzg<ALTERNATING",
    "mMOVEMENT-WALLPLANE WAVE DIAGONAL PATH SMALLzzMEDIUMzzLARGEvFLOORPLANE CURVE HITTING CEILING SMALLzzeLARGE",
    "zhHUMP HITTING CEILING SMALL DOUBLEzzd)LARGEzzd#SMALL TRIPzzd)LARGEzh#LOOP HITTING CEILING SMALL SINGzzd)LARGE",
    "zzd#SMALL DOUBzzd)LARGEzhWAVE HITTING CEILING SMALLzzdLARGEmROTATION-FLOORPLANE SINGLE HITTING CEILINGzh@DOUB",
    "zh>ALTERNATINGmMOVEMENT-FLOORPLANE CURVE HITTING FLOOR SMALLzzcLARGEzhHUMP HITTING FLOOR SMALL DOUBLEzz) LARGE",
    "zz# TRIPLE SMALL TRIPzzi)LARGEzh#LOOP HITTING FLOOR SMALL SINGzz) LARGEzz# SMALL DOUBzz) LARGE",
    "zhWAVE HITTING FLOOR SMALLzz LARGEmROTATION-FLOORPLANE SINGLE HITTING FLOORzh>DOUBzh<ALTERNATING",
    "mMOVEMENT-FLOORPLANE CURVE SMALLznMEDIUMznLARGEzsSTznCOMBINEDzhHUMP SMALLzh)LOOzhWAVE SNAKEznMALLzmLARGE",
    "mROTATION-FLOORPLANE SINGLEzh#DOUBzhALTERNATINGmMOVEMENT-FLOORPLANE SHAKING PARALLEL",
    "vWALLPLANE ARM CIRCLE SMALL SINGLEzr)MEDIUMzr#SMALL DOUBzr)MEDIUMv#FLOORPLANE ARM CIRCLE HITTING WALL SMALL SING",
    "zzg)MEDIUMzzg)LARGEzzg#SMALL DOUBzzg)MEDIUMzzg)LARGEv#WALLPLANE WRIST CIRCLE FRONT SINGzz#DOUB",
    "v#FLOORPLANE WRIST CIRCLE HITTING WALL SINGzzi#DOUBv#WALLPLANE FINGER CIRCLES SINGzv#DOUB",
    "v#FLOORPLANE FINGER CIRCLES HITTING WALL SINGzzk#DOUBmDYNAMIC ARROWHEAD SMALLzfLARGEuFASTuSLOWuTENSEuRELAXED",
    "uSIMULTANEOUSzh ALTERNATINGuEVERY OTHER TIMEuGRADUALmHEADq RIMrMOVEMENT-WALLPLANE STRAIGHTzlTILT",
    "z-FLOORPLANE STRAIGHTz-WALLPLANE CURVEz.-FLOORz CIRCLEmFACE DIRECTION POSITION NOSE FORWARD TILTINGzqUP OR DOWN",
    "zzN TILTINGmEYEBROWS STRAIGHT UPzfNEUTRALzfDOWNm&DREAMY EYEBROWS NEUTRALzdDOWN NEUTRALzd*UPzdNEUTRAL UP",
    "mFOREHEAD NEUTRALvCONTACTvWRINKLEDmEYES OPENrSQUEEZEDr#CLOSp BLINK SINGLEw#MULTIPpS HALF OPENr&WIDErHALF CLOSED",
    "rWIDENING MOVEMENTp WINKpLASHES UPwDOWNwFLUTTERINGpGAZE-WALLPLANE STRAIGHTzn DOUBLEzoALTERNATING",
    "uFLOORPLANE STRAIGHTzo DOUBLEzpALTERNATINGuWALLPLANE CURVEDu:FLOORuWALLPLANE CIRCLINGmCHEEKS PUFFEDtNEUTRAL",
    "tSUCKEDmTENSE CHEEKS HIGHzMIDDLEzLOWmEARSmNOSE NEUTRALrCONTACTrWRINKLESs$IGGmAIR BLOWING OUTqSUCKING IN",
    "qBLOW SMALL ROTATIONSq>SUCKmBREATH INHALEt%EXmMOUTH CLOSED NEUTRALzFORWARDzCONTACTsSMILEx WRINKLEDyOPENsFROWN",
    "x WRINKLEDyOPENsOPEN CIRCLExFORWARDxWRINKLEDxOVALzc WRINKLEDzdYAWNxRECTANGLEzh WRINKLEDziYAWNsKISSw FORWARD",
    "xWRINKLEDsTENSEx FORWARDySUCKEDmLIPS PRESSED TOGETHERp# LOWER OVER UPPq#UPPER OVER LOWmMOUTH CORNERS",
    "sWRINKLES SINGLEzc#DOUBmTONGUE STICKING OUT FARtLICKING LIPSt&TIP BETWEENxTOUCHING INSIDE MOUTH",
    "tINSIDE MOUTH RELAXEDtMOVES AGAINST CHEEKtCENTRE STICKING OUTz INSIDE MOUTHn#EEr MOVEMENTsON TONGUEzc MOVEMENT",
    "vLIPSz MOVEMENTsBITE LIPSmMOVEMENT-WALLPLANE JAWv+FLOORmNECKmHAIRmEXCITEMENTmSHOULDER HIP SPINEzPOSITIONS",
    "mWALLPLANE SHOULDER HIP MOVEm|FLOORPmSHOULDER TILTING FROM WAISTmTORSO-WALLPLANE STRAIGHT STRETCHzdCURVED BEND",
    "sFLOORPLANE TWISTINGmUPPER BODY TILTING FROM HIP JOINTSmLIMB COMBINATIONrLENGTH-1~~~~~~mFINGER",
    "mLOCATION-WALLPLANE SPACEv.FLOORu HEIGHTvWIDTHv#DEPvHEAD NECKvTORSOvLIMBS DIGITSmCOMMAmFULL STOPmSEMICOLONm&",
    "mPARENTHESIS"]),
  (0x1DA9B, ["aSIGNWRITING FILL MODIFIER-2~~~~_mROTATION MODIFIER-2~~~~~~~zf10~~~~~~"]),
  (0x1DF00, ["aLATIN SMALL LETTER FENG DIGRAPH WITH TRILLtREVERSED SCRIPT Gg#LETTER SMALL CAPITAL TURNED",
    "gSMALL LETTER REVERSED KgLETTER SMALL CAPITAL L WITH BELTgSMALL LETTER LEZH WITH RETROFLEX HOOK",
    "tTURNED Y WITH BELTtREVERSED ENGtTURNED R WITH LONG LEG AND RETROFLEX HOOKu[ WITH HOOK",
    "g=LETTER RETROFLEX CLICK WITHgSMALL LETTER ESH WITH DOUBLE BARzn AND CURLt&TURNED T WITH",
    "g,LETTER INVERTED GLOTTAL STOPn,STRETCHED CoMALL CAPITAL TURNED KgSMALL LETTER L WITH FISHHOOK",
    "t%DEZH DIGRAPH WITH PALATAL t;L WITH BELT ANDt;ENG WITHt@TURNED Rt;R WITH FISHHOOK ANDt;TESH DIGRAPH WITHt[EZ",
    "t&DEZH DIGRAPH WITH RETROFLEXt=I WITH STROKE ANDt=O WITHt]TESH DIGRAPHt]CtS WITH CURL"]),
  (0x1E000, ["aCOMBINING GLAGOLITIC LETTER AZUzdBUKYzdVEDEzdGLAGOLIzdDOBROzdYESTUzdZHIVETE_zeEMLJAzdIZHEzc& INITIAL",
    "zdIzdDJERVIzdKAKOzdLJUDIJEzdMYSLITEzdNASHIzdONUzdPOKOJIzdRITSIzdSLOVOzdTVRIDOzdUKUzdFRITUzdHERU__zdSHTAzdTSI",
    "zdCHRIVIzdSHAzdYERUzgIzeATI_zeUzdSMALL YUS_zdYOzdIOTATED SMALL YUSzd%BIGzc* IOTATEDzdFITA"]),
  (0x1E100, ["aNYIAKENG PUACHUE HMONG LETTER MAzfTSAzfNTAzf#zfHAzfNAzfXAzfNKAzfCAzfLAzfSAzfZAzfNCAzgTSAzfKAzfDAzfNYA",
    "zgRAzfVAzfNTXAzf$zfFAzfRAzfQAzfYAzfNQAzfPAzfXYAzfNPAzfDLAzf#NPzfHAHzfMLAzf#PzfGAzfRRAzfAzgAzfIzfUzfOzgOzfEzgEzfW",
    "___xTONE-BzdMzdJzdVzdSzdGzdDxSIGN FOR PERSONzhTHINGzhLOCATIONzhANIMALzhINVERTEBRATEzdXW XWyYLLABLE LENGTHENER__",
    "xDIGIT ZEROzeONEzeTWOzfHREEzeFOURzfIVEzeSIXzfEVENzeEIGHTzeNINE____xLOGOGRAM NYAJxCIRCLED CA"]),
  (0x1E290, ["aTOTO LETTER PAmBAmTAmDAmKAmGAmMAmNAnGAmSAmCHAmYAmWAmJAmHAmRAmLAmIl# BREATHYmIUl$ BREATHYmUmE",
    "l# BREATHYmEOl$ BREATHYmOmAEl$ BREATHYmAfSIGN RISING TONE"]),
  (0x1E2C0, ["aWANCHO LETTER AAoAoBAoCAoDAoGAoYAoPHAoLAoNAoPAoTApHAoFAoSApHAoJAoZAoWAoVAoKAoOoAUoRAoMAoKHAo#oEoIoNGA",
    "oUoLLHAoTSApRAoONGo#AAo$o#IoONoENoAANoNYAoUENoYIHhTONE TUPpNImKOIpNIhDIGIT ZEROnONEnTWOoHREEnFOURoIVEnSIXoEVEN",
    "nEIGHTnNINE_____hNGUN SIGN"]),
  (0x1E7E0, ["aETHIOPIC SYLLABLE HHYAvUvIvAAvEEvEvO_sGURAGE HHWAsHHWIvEEvE_sGURAGE MWIzcEE_zQWIzcEEzcEzBWIzcEEzKWI",
    "zcEEzcEzGWIzcEEzcEzFWIzcEEzPWIzcEE_aMENDE KIKAKUI SYLLABLE M001 KIz02 KAz03 KUz65 KEEz95 KEz76 KOOz48 KOy179 KUA",
    "y004 WIz05 WAz06 WUy126 WEEz18 WEz14 WOOy045 WOy194 WUIz43 WEIy061 WVIz49 WVAy139 WVEy007 MINz08 MANz09 MUN",
    "z59 MENz94 MONy154 MUANz89 MUENy010 BIz11 BAz12 BUy150 BEEy097 BEy103 BOOz38 BOy013 Iz14 Az15 Uy163 EEz00 E",
    "z65 OOz47 Oz37 EIz31 INz$35z95 ANz78 ENy019 SIz20 SAz21 SUy162 SEEz16 SEz36 SOOy079 SOy196 SIAy025 LIz26 LA",
    "z27 LUz84 LEEz73 LEz54 LOOy153 LOz10 LONG LEy016 DIz17 DAz18 DUz89 DEEy180 DOOz81 DOy022 TIz23 TAz24 TUz91 TEE",
    "z55 TEy104 TOOy069 TOz28 JIz29 JAz30 JUy157 JEEz13 JEz60 JOOy063 JOy$175 LONGy031 YIz32 YAz33 YUy109 YEEy080 YE",
    "y141 YOOz21 YOy034 FIz35 FAz36 FUz78 FEEz75 FEy133 FOOy088 FOy197 FUAz01 FANy037 NINz38 NANz39 NUNy117 NEN",
    "z69 NONz76 HIy041 HAy186 HUy040 HEEz96 HEz42 HOOy140 HOy083 HEEIy128 HOOUy053 HINy130 HANy087 HUNz52 HENy193 HON",
    "y046 HUANz90 NGGIz43 NGGAz82 NGGUy115 NGGEEz46 NGGEz56 NGGOOz20 NGGOz59 NGGAAz27 NGGUAy086 LONG NGGE",
    "y106 LONG NGGOOz83 LONG NGGOz55 GIz11 GAz68 GUz90 GEEz66 GUEIz67 GUANz84 NGENy057 NGONy177 NGUANy068 PIz99 PA",
    "z50 PUz81 PEEz51 PEy102 POOy066 POy145 MBIy062 MBAy122 MBUy047 MBEEy&188y072 MBEy172 MBOOz74 MBOz87 MBUU",
    "z61 LONG MBEz05 LONG MBOOz42 LONG MBOz32 KPIy092 KPAz74 KPUz44 KPEEy108 KPEz12 KPOOz58 KPOz24 GBIy056 GBA",
    "y148 GBUy093 GBEEy107 GBEy071 GBOOz70 GBOy171 RAz23 NDIz29 NDAz25 NDUz91 NDEEz19 NDEy067 NDOOz64 NDOy152 NJA",
    "z92 NJUz49 NJEEz34 NJOOz82 VIz85 VAz51 VUz73 VEEy085 VEy144 VOOy077 VOy164 NYINy058 NYANy170 NYUNy098 NYEN",
    "z60 NYON__oDIGIT ONEuTWOvHREEuFOURvIVEuSIXvEVENuEIGHTuNINEoCOMBINING NUMBER TEENSzh$zgHUNDREDSzg#THOUSANzf, TEN",
    "zg,HUNDREDzgMILLIONS"]),
  (0x1E900, ["aADLAM CAPITAL LETTER ALIFvDAALIvLAAMvMIIMvBAvSINNYIIYHEvPEvBHEvRAvEvFAvIvOvDHAvYHEvWAWvNUNvKAFvYAvU",
    "vJIIMvCHIvHAvQAAFvGAvNYAvTUvNHAvVAvKHAvGBEvZALvKPOvSHAgSMALL LETTER ALIFtDAALItLAAMtMIIMtBAtSINNYIIYHEtPEtBHEtRA",
    "tEtFAtItOtDHAtYHEtWAWtNUNtKAFtYAtUtJIIMtCHItHAtQAAFtGAtNYAtTUtNHAtVAtKHAtGBEtZALtKPOtSHAgALIF LENGTHENERg.VOWEL",
    "gGEMINATION MARKgHAMZAgCONSONANT MODIFIERf[ GEMINATEgNUKTAhASALIZATION MARK____gDIGIT ZEROmONEmTWOnHREEmFOURnIVE",
    "mSIXnEVENmEIGHTmNINE____gINITIAL EXCLAMATION MARKo+QUES"]),
  (0x1EC71, ["aINDIC SIYAQ NUMBER ONEtTWOuHREEtFOURuIVEtSIXuEVENtEIGHTtNINEtTENuWENTYu#HIRt$FOu#IFt#SIXu#EVENt#EIGH",
    "t#NINEtONE HUNDREDt*TWOu*HREEt*FOURu*IVEt*SIXu*EVENt*EIGHTt*NINEtONE THOUSANDt+TWOu+HREEt+FOURu+IVEt+SIXu+EVEN",
    "t+EIGHTt+NINEt+TENu+WENTYu.HIRt:FOu.IFt.SIXu.EVENt.EIGHt.NINEtLAKHxANmLAKH MARKmNUMBER KARORyANtPREFIXED ONE",
    "zdTWOzeHREEzdFOURzeIVEzdSIXzeEVENzdEIGHTzdNINEmPLACEHOLDERm#FRACTION ONE QUARTzHALFvTHREE QUARTERSmRUPEE MARK",
    "mNUMBER ALTERNATE ONEzeTWOzfEN THOUSANDmALTERNATE LAKH MARK"]),
  (0x1ED01, ["aOTTOMAN SIYAQ NUMBER ONEvTWOwHREEvFOURwIVEvSIXwEVENvEIGHTvNINEvTENwWENTYw#HIRv$FOw#IFv#SIXw#EVEN",
    "v#EIGHv#NINEvONE HUNDREDv*TWOw*HREEv*FOURw*IVEv*SIXw*EVENv*EIGHTv*NINEvONE THOUSANDv+TWOw+HREEv+FOURw+IVEv+SIX",
    "w+EVENv+EIGHTv+NINEv+TENw+WENTYw.HIRv:FOw.IFv.SIXw.EVENv.EIGHv.NINEoMARRATANoALTERNATE NUMBER TWOzhHREEzgFOUR",
    "zhIVEzgSIXzhEVENzgEIGHTzgNINEzgTENzgFOUR HUNDREDzg*SIXzgTWO THOUSANDzh+ENoFRACTION ONE HALFzcSIXTH"]),
  (0x1EE00, ["aARABIC MATHEMATICAL ALEFuBEHuJEEMuDAL_uWAWuZAINuHAHu#TuYEHuKAFuLAMuMEEMuNOONuSEENuAINuFEHuSADuQAFuREH",
    "uSHEENuTEHv#HuKHAHuTHALuDADuZAHuGHAINuDOTLESS BEHzdNOONzdFEHzdQAF_uINITIAL BEHzdJEEM_zdHEH__zeAH_zdYEHzdKAFzdLAM",
    "zdMEEMzdNOONzdSEENzdAINzdFEHzdSADzdQAF_zdSHEENzdTEHze#HzdKHAH_zdDAD_zdGHAIN______uTAILED JEEM____zcHAH_zcYEH_",
    "zcLAM_zcNOONzcSEENzcAIN_zcSADzcQAF_zcSHEEN__zcKHAH_zcDAD_zcGHAIN_zcDOTLESS NOON_zkQAF_uSTRETCHED BEHzfJEEM_zfHEH",
    "__zgAHzf#TzfYEHzfKAF_zfMEEMzfNOONzfSEENzfAINzfFEHzfSADzfQAF_zfSHEENzfTEHzg#HzfKHAH_zfDADzfZAHzfGHAIN",
    "zfDOTLESS BEH_zn#F_uLOOPED ALEFzcBEHzcJEEMzcDALzcHEHzcWAWzcZAINzcHAHzc#TzcYEH_zcLAMzcMEEMzcNOONzcSEENzcAINzcFEH",
    "zcSADzcQAFzcREHzcSHEENzcTEHzd#HzcKHAHzcTHALzcDADzcZAHzcGHAIN_____uDOUBLE-STRUCK BEHzjJEEMzjDAL_zjWAWzjZAINzjHAH",
    "zj#TzjYEH_zjLAMzjMEEMzjNOONzjSEENzjAINzjFEHzjSADzjQAFzjREHzjSHEENzjTEHzk#HzjKHAHzjTHALzjDADzjZAHzjGHAIN"]),
  (0x1EEF0, ["aARABIC MATHEMATICAL OPERATOR MEEM WITH HAH WITH TATWEELzeHAH WITH DAL"]),
  (0x1F000, ["aMAHJONG TILE EAST WINDn&SOUTHn&WESTn&NORTHnRED DRAGONn)GREENn)WHITEnONE OF CHARACTERSn<TWOo<HREE",
    "n<FOURo<IVEn<SIXo<EVENn<EIGHTn<NINEnONE OF BAMBOOSn.TWOo.HREEn.FOURo.IVEn.SIXo.EVENn.EIGHTn.NINEnONE OF CIRCLES",
    "n.TWOo.HREEn.FOURo.IVEn.SIXo.EVENn.EIGHTn.NINEnPLUMnORCHIDnBAMBOOnCHRYSANTHEMUMnSPRINGoUMMERnAUTUMNnWINTERn#JOK",
    "nBACK____a&DOMINO TILE HORIZONTALw-00-00~~~~~~y1-00~~~~~~y2-00~~~~~~y3-00~~~~~~y4-00~~~~~~y5-00~~~~~~y6-00~~~~~~",
    "mVERTICAL BACKu-00-00~~~~~~w1-00~~~~~~w2-00~~~~~~w3-00~~~~~~w4-00~~~~~~w5-00~~~~~~w6-00~~~~~~"]),
  (0x1F0A0, ["aPLAYING CARD BACKnACE OF SPADESn,TWOo,HREEn,FOURo,IVEn,SIXo,EVENn,EIGHTn,NINEn,TENn,JACKn,KNIGHT",
    "n,QUEENn,KING__nACE OF HEARTSn,TWOo,HREEn,FOURo,IVEn,SIXo,EVENn,EIGHTn,NINEn,TENn,JACKn,KNIGHTn,QUEENn,KING",
    "nRED JOKER_nACE OF DIAMONDSn:TWOo:HREEn:FOURo:IVEn:SIXo:EVENn:EIGHTn:NINEn:TENn:JACKn:KNIGHTn:QUEENn:KING",
    "nBLACK JOKER_nACE OF CLUBSn+TWOo+HREEn+FOURo+IVEn+SIXo+EVENn+EIGHTn+NINEn+TENn+JACKn+KNIGHTn+QUEENn+KING",
    "nWHITE JOKERnFOOLnTRUMP-1~~~~~~~~t10~~~~~~~~~t20~"]),
  (0x1F100, ["aDIGIT ZERO FULL STOPlCOMMAg(ONEg(TWOh(HREEg(FOURh(IVEg(SIXh(EVENg(EIGHTg(NINE",
    "cNGBAT CIRCLED SANS-SERIF DIGIT ZEROh|* NEGATIVEaCIRCLED ZERO WITH SLASHiANTICLOCKWISE ARROW",
    "iDOLLAR SIGN WITH OVERLAID BACKSLASHaPARENTHESIZED LATIN CAPITAL LETTER A~~~~~~~~~~~~~~~~~~~~~~~~~",
    "aTORTOISE SHELL BRACKETED LATIN CAPITAL LETTER SaCIRCLED ITALIC LATIN CAPITAL LETTER CzlRiCDiWZbOPYLEFT SYMBOL",
    "aSQUARED LATIN CAPITAL LETTER A~~~~~~~~~~~~~~~~~~~~~~~~~iHViMViSDjSiPPViWC",
    "aNEGATIVE CIRCLED LATIN CAPITAL LETTER A~~~~~~~~~~~~~~~~~~~~~~~~~aRAISED MC SIGNi&Di&RaCIRCLED CC",
    "j WITH OVERLAID BACKSLASHiHUMAN FIGUREaNEGATIVE SQUARED LATIN CAPITAL LETTER A~~~~~~~~~~~~~~~~~~~~~~~~~",
    "aCROSSED NEGATIVE SQUARED LATIN CAPITAL LETTER PaNEGATIVE SQUARED ICrPArSArABrWCaSQUARE DJgD CLjOOLiFREEiIDiNEW",
    "jGiOKiSOSiUP WITH EXCLAMATION MARKiVSiTHREE DiSECOND SCREENiTWO Ki#FOURi#EIGHTiFIVE POINT ONEi,SEVEN",
    "iTWENTY-TWO POINT TWOiSIXTY Pi%ONE HUNDRED TWENiLATIN SMALL LETTER DiHCjDRjI-RESiLOSSLESSiSHViUHDiVOD",
    "aMASK WORK SYMBOL"]),
  (0x1F1E6, ["aREGIONAL INDICATOR SYMBOL LETTER A~~~~~~~~~~~~~~~~~~~~~~~~~aSQUARE HIRAGANA HOKAgD KATAKANA KOKOrSA"]),
  (0x1F210, ["aSQUARED CJK UNIFIED IDEOGRAPH-624Bzf5B57zg3CCiKATAKANA DEiCJK UNIFIED IDEOGRAPH-4E8Czf591Azf89E3",
    "zf5929zf4EA4zf6620zf7121zf6599zf524DzgF8Czg18Dzf65B0zf521Dzf7D42zg51Fzf8CA9zf58F0zg439zf6F14zg295zg355zf4E00zi9",
    "zf904Azf5DE6zf4E2Dzf53F3zf6307zf8D70zf6253zf7981zgA7Azf5408zf6E80zg709zi8zf7533zf5272zg5B6zf914D____",
    "aTORTOISE SHELL BRACKETED CJK UNIFIED IDEOGRAPH-672Czw4E09zy8Czw5B89zw70B9zw6253zw76D7zw52DDzw6557_______",
    "aCIRCLED IDEOGRAPH ADVANTAGEtCCEPT"]),
  (0x1F260, ["aROUNDED SYMBOL FOR FUtLUtSHOUtXIt#SHUANGtCAI"]),
  (0x1F300, ["aCYCLONEaFOGGYaCLOSED UMBRELLAaNIGHT WITH STARSaSUNRISE OVER MOUNTAINSgEaCITYSCAPE AT DUSK",
    "aSUNSET OVER BUILDINGSaRAINBOWaBRIDGE AT NIGHTaWATER WAVEaVOLCANOaMILKY WAYaEARTH GLOBE EUROPE-AFRICAmAMERICAS",
    "nSIA-AUSTRALIAaGLOBE WITH MERIDIANSaNEW MOON SYMBOLa:WAXING CRESCENTa:FIRST QUARTERa:WAXING GIBBOUSa:FULL",
    "a:WANING GIBBOUSa:LAST QUARTERa:WANING CRESCENTaCRESCENT MOONaNEW MOON WITH FACEa=FIRST QUARTERa|$LAa=FULLa.SU",
    "aGLOWING STARa*SHOOTaTHERMOMETERaBLACK DROPLETaWHITE SUNj WITH SMALL CLOUDk(BEHINDw WITH RAINa=lSNOWlLIGHTNING",
    "lTORNADOaFOGaWIND BLOWING FACEaHOT DOGaTACOaBURRITOaCHESTNUTaSEEDLINGaEVERGREEN TREEa&DECIDUOUSa&PALMaCACTUS",
    "aHOT PEPPERaTULIPaCHERRY BLOSSOMaROSEaHIBISCUSaSUNFLOWERaBLOSSOMaEAR OF MAIZEhRICEaHERBaFOUR LEAF CLOVER",
    "aMAPLE LEAFa&FALLENaLEAF FLUTTERING IN WINDaMUSHROOMaTOMATOaAUBERGINEaGRAPESaMELONa&WATERaTANGERINEaLEMONaBANANA",
    "aPINEAPPLEa&RED a(GREENaPEARdCHaCHERRIESaSTRAWBERRYaHAMBURGERaSLICE OF PIZZAaMEAT ON BONEaPOULTRY LEG",
    "aRICE CRACKERfBALLaCOOKED RICEb(URRY ANaSTEAMING BOWLbPAGHETTIaBREADaFRENCH FRIESaROASTED SWEET POTATOaDANGO",
    "aODENaSUSHIaFRIED SHRIMPbISH CAKE WITH SWIRL DESIGNaSOFT ICE CREAMbHAVED ICEaICE CREAMaDOUGHNUTaCOOKIE",
    "bHOCOLATE BARbANDYaLOLLIPOPaCUSTARDaHONEY POTaSHORTCAKEaBENTO BOXaPOT OF FOODaCOOKINGaFORK AND KNIFE",
    "aTEACUP WITHOUT HANDLEaSAKE BOTTLE AND CUPaWINE GLASSa(COCKTAILaTROPICAL DRINKaBEER MUGaCLINKING BEER MUGS",
    "aBABY BOTTLEaFORK AND KNIFE WITH PLATEaBOTTLE WITH POPPING CORKaPOPCORNaRIBBONaWRAPPED PRESENTaBIRTHDAY CAKE",
    "aJACK-O-LANTERNaCHRISTMAS TREEaFATHER CHRISTMASbIREWORKSi SPARKLERaBALLOONaPARTY POPPERaCONFETTI BALL",
    "aTANABATA TREEaCROSSED FLAGSaPINE DECORATIONaJAPANESE DOLLSaCARP STREAMERaWIND CHIMEaMOON VIEWING CEREMONY",
    "aSCHOOL SATCHELaGRADUATION CAPaHEART WITH TIP ON THE LEFTaBOUQUET OF FLOWERSaMILITARY MEDALaREMINDER RIBBON",
    "aMUSICAL KEYBOARD WITH JACKSaSTUDIO MICROPHONEaLEVEL SLIDERaCONTROL KNOBSaBEAMED ASCENDING MUSICAL NOTESh|DE",
    "a#FILM FRAMaADMISSION TICKETSaCAROUSEL HORSEaFERRIS WHEELaROLLER COASTERaFISHING POLE AND FISHaMICROPHONE",
    "bOVIE CAMERAaCINEMAaHEADPHONEaARTIST PALETTEaTOP HATaCIRCUS TENTaTICKETaCLAPPER BOARDaPERFORMING ARTSaVIDEO GAME",
    "aDIRECT HITaSLOT MACHINEaBILLIARDSaGAME DIEaBOWLINGaFLOWER PLAYING CARDSaMUSICAL NOTEcLTIPLE MUSICAL NOTES",
    "aSAXOPHONEaGUITARaMUSICAL KEYBOARDaTRUMPETaVIOLINaMUSICAL SCOREaRUNNING SHIRT WITH SASHaTENNIS RACQUET AND BALL",
    "aSKI AND SKI BOOTaBASKETBALL AND HOOPaCHEQUERED FLAGaSNOWBOARDERa#RUNNa#SURFbPORTS MEDALaTROPHYaHORSE RACING",
    "aAMERICAN FOOTBALLa+RUGBYaSWIMMERa#WEIGHT LIFTa#GOLFaRACING MOTORCYCLEhCARaCRICKET BAT AND BALLa%VOLLEY",
    "a%FIELD HOCKEY STICK AND aICE HOCKEY STICK AND PUCKaTABLE TENNIS PADDLE AND BALLaSNOW CAPPED MOUNTAINaCAMPING",
    "aBEACH WITH UMBRELLAbUILDING CONSTRUCTIONaHOUSE BUILDINGSaCITYSCAPEaDERELICT HOUSE BUILDINGa+CLASSICALaDESERT",
    "g ISLANDaNATIONAL PARKaSTADIUMaHOUSE BUILDINGgWITH GARDENaOFFICE BUILDINGaJAPANESE POST OFFICEa:EUROPEAN",
    "aHOSPITALaBANKaAUTOMATED TELLER MACHINEaHOTELa&LOVE aCONVENIENCE STOREaSCHOOLaDEPARTMENT STOREaFACTORY",
    "aIZAKAYA LANTERNaJAPANESE CASTLEa)EUROPEANaWHITE PENNANTa*BLACKaWAVING WHITE FLAGh&BLACKaROSETTEa)BLACK aLABEL",
    "aBADMINTON RACQUET AND SHUTTLECOCKbOW AND ARROWaAMPHORAaEMOJI MODIFIER FITZPATRICK TYPE-1-2zh3~~~aRATaMOUSEaOX",
    "aWATER BUFFALOaCOWaTIGERaLEOPARDaRABBITaCATaDRAGONaCROCODILEa#WHAaSNAILdKEaHORSEaRAMaGOATaSHEEPaMONKEYaROOSTER",
    "aCHICKENaDOGaPIGaBOARaELEPHANTaOCTOPUSaSPIRAL SHELLaBUGaANTaHONEYBEEaLADY BEETLEaFISHa%TROPICAL a%BLOWaTURTLE",
    "aHATCHING CHICKa(BABYa,FRONT-FACING aBIRDaPENGUINaKOALAaPOODLEaDROMEDARY CAMELa(BACTRIANaDOLPHINaMOUSE FACEa&COW",
    "a&TIGERa&RABBITa(CAa&DRAGONaSPOUTING WHALEaHORSE FACEa&MONKEYa&DOGa(PIa(FROa&HAMSTERa&WOLFa&BEARa&PANDAbIG NOSE",
    "bAW PRINTSaCHIPMUNKaEYEScEbARaNOSEaMOUTHaTONGUEaWHITE UP POINTING BACKHAND INDEXg|#DOWNg|#LEFTg|$RIGH",
    "aFISTED HAND SIGNa,WAVINGa,OKa&THUMBS UPh&DOWNa&CLAPPING HANDSa.OPENaCROWNaWOMANS HATaEYEGLASSESaNECKTIEaT-SHIRT",
    "aJEANSaDRESSaKIMONOaBIKINIaWOMANS CLOTHESaPURSEaHANDBAGaPOUCHaMANS SHOEa&ATHLETICa&HIGH-HEELEDaWOMANS SANDAL",
    "hBOOTSa#FOOTPRINaBUST IN SILHOUETTEe<SbOYaGIRLaMANa$WOaFAMILYaMAN AND WOMAN HOLDING HANDSa=TWO MEe?WO",
    "aPOLICE OFFICERaWOMAN WITH BUNNY EARSaBRIDE WITH VEILaPERSON WITH BLOND HAIRaMAN WITH GUA PI MAOjTURBANa#OLDER M",
    "g$WOaBABYaCONSTRUCTION WORKERaPRINCESSaJAPANESE OGREjGOBLINaGHOSTaBABY ANGELaEXTRATERRESTRIAL ALIEN",
    "aALIEN MONSTERaIMPaSKULLaINFORMATION DESK PERSONaGUARDSMANaDANCERaLIPSTICKaNAIL POLISHaFACE MASSAGEaHAIRCUT",
    "aBARBER POLEaSYRINGEaPILLaKISS MARKaLOVE LETTERaRINGaGEM STONEaKISSaBOUQUETaCOUPLE WITH HEARTaWEDDING",
    "aBEATING HEARTb(ROKENaTWO HEARTSaSPARKLING HEARTa+GROWaHEART WITH ARROWaBLUE HEARTa(GREENa(YELLOWa(PURPLE",
    "aHEART WITH RIBBONaREVOLVING HEARTSaHEART DECORATIONaDIAMOND SHAPE WITH A DOT INSIDEaELECTRIC LIGHT BULB",
    "aANGER SYMBOLaBOMBaSLEEPING SYMBOLa)COLLISIONa)SPLASHING SWEATaDROPLETbASH SYMBOLaPILE OF POOaFLEXED BICEPS",
    "aDIZZY SYMBOLaSPEECH BALLOONa*THOUGHTaWHITE FLOWERaHUNDRED POINTS SYMBOLaMONEY BAGaCURRENCY EXCHANGE",
    "aHEAVY DOLLAR SIGNaCREDIT CARDaBANKNOTE WITH YEN SIGNo&DOLLARo&EUROo&POUNDaMONEY WITH WINGS",
    "aCHART WITH UPWARDS TREND AND YEN SIGNaSEATaPERSONAL COMPUTERaBRIEFCASEaMINIDISCaFLOPPY DISKaOPTICAL DISCaDVD",
    "aFILE FOLDERa.OPEN aPAGE WITH CURLfFACING UPaCALENDARa*TEAR-OFF aCARD INDEXbHART WITH UPWARDS TRENDl.DOWN",
    "aBAR CHARTaCLIPBOARDaPUSHPINa)ROUND aPAPERCLIPaSTRAIGHT RULERa(TRIANGULARaBOOKMARK TABSaLEDGERaNOTEBOOK",
    "i WITH DECORATIVE COVERaCLOSED BOOKa&OPENa)GREa&BLUEa(ORANGaBOOKSaNAME BADGEaSCROLLaMEMOaTELEPHONE RECEIVERa#PAG",
    "aFAX MACHINEaSATELLITE ANTENNAaPUBLIC ADDRESS LOUDSPEAKERaCHEERING MEGAPHONEaOUTBOX TRAYa*INaPACKAGE",
    "aE-MAIL SYMBOLaINCOMING ENVELOPEaENVELOPE WITH DOWNWARDS ARROW ABOVEaCLOSED MAILBOX WITH LOWERED FLAGu)RAIS",
    "a|$OPENs)LOWERaPOSTBOXeAL HORNaNEWSPAPERaMOBILE PHONEm WITH RIGHTWARDS ARROW AT LEFTaVIBRATION MODE",
    "aMOBILE PHONE OFFaNO MOBILE PHONESaANTENNA WITH BARSaCAMERAg WITH FLASHaVIDEO CAMERAaTELEVISIONaRADIO",
    "aVIDEOCASSETTEaFILM PROJECTORaPORTABLE STEREObRAYER BEADSaTWISTED RIGHTWARDS ARROWS",
    "a)CLOCKWISE RIGHTWARDS AND LEFTWARDS OPEN CIRCLEzzd WITH CIRCLED ONE OVERLAY",
    "kDOWNWARDS AND UPWARDS OPEN CIRCLE ARROWSa||(ANTIaLOW BRIGHTNESS SYMBOLa@HIGHaSPEAKER WITH CANCELLATION STROKEgR",
    "h WITH ONE SOUND WAVEnTHREE SOUND WAVESaBATTERYaELECTRIC PLUGaLEFT-POINTING MAGNIFYING GLASSa|&RIGH",
    "aLOCK WITH INK PENaCLOSED LOCK WITH KEYa$aLOCKa%OPEN aBELLe WITH CANCELLATION STROKEbOOKMARKaLINK SYMBOL",
    "aRADIO BUTTONaBACK WITH LEFTWARDS ARROW ABOVEa|&ENDa:ON WITH EXCLAMATION MARK WITH LEFT RIGHT",
    "a:SOON WITH RIGHTWARDSa?TOP WITH UPaNO ONE UNDER EIGHTEEN SYMBOLaKEYCAP TEN",
    "aINPUT SYMBOL FOR LATIN CAPITAL LETTERSx+SMALr$NUMBrSYMBOLSrLATIN LETTERSaFIREaELECTRIC TORCHa#WRENaHAMMER",
    "aNUT AND BOLTaHOCHOaPISTOLaMICROSCOPEa&TELEaCRYSTAL BALLaSIX POINTED STAR WITH MIDDLE DOT",
    "aJAPANESE SYMBOL FOR BEGINNERaTRIDENT EMBLEMaBLACK SQUARE BUTTONa<WHITEaLARGE RED CIRCLEg)BLUEgORANGE DIAMOND",
    "g+BLUa+SMALL ORANGg+BLUaUP-POINTING RED TRIANGLEa|DOWNa;UP-POINTING SMALLa|(DOWN",
    "a#LOWER RIGHT SHADOWED WHITE CIRCa|*UPPaCIRCLED CROSS POMMEEbROSS POMMEE WITH HALF-CIRCLE BELOWlE",
    "aNOTCHED LEFT SEMICIRCLE WITH THREE DOTSi|(RIGHaSYMBOL FOR MARKS CHAPTERaWHITE LATIN CROSSa:HEAVYa(CELTIC",
    "aOM SYMBOLaDOVE OF PEACEaKAABAaMOSQUEa#SYNAGOGaMENORAH WITH NINE BRANCHESaBOWL OF HYGIEIAaCLOCK FACE ONE OCLOCK",
    "l)TWOm)HREEl)FOURm)IVEl)SIXm)EVENl)EIGHTl)NINEl)TENl+ELEVl)TWELVElONE-THIRTYl)TWOm)HREEl)FOURm)IVEl)SIXm)EVEN",
    "l)EIGHTl)NINEl)TENl+ELEVl)TWELVEaRIGHT SPEAKERn WITH ONE SOUND WAVEtTHREE SOUND WAVESaBULLHORNi WITH SOUND WAVES",
    "aRINGING BELLaBOOKaCANDLEaMANTELPIECE CLOCKaBLACK SKULL AND CROSSBONESaNO PIRACYaHOLE",
    "aMAN IN BUSINESS SUIT LEVITATINGaSLEUTH OR SPYaDARK SUNGLASSESaSPIDERg WEBaJOYSTICKaMAN DANCING",
    "aLEFT HAND TELEPHONE RECEIVERaTELEPHONE RECEIVER WITH PAGEaRIGHT HAND TELEPHONE RECEIVER",
    "aWHITE TOUCHTONE TELEPHONEa]BLACKaTELEPHONE ON TOP OF MODEMaCLAMSHELL MOBILE PHONEaBACK OF ENVELOPEa+STAMPED",
    "aENVELOPE WITH LIGHTNINGaFLYING ENVELOPEa+PEN OVER STAMPEDaLINKED PAPERCLIPSaBLACK PUSHPINaLOWER LEFT PENCIL",
    "lBALLPOINT PENl%FOUNTAINlPAINTBRUSHlCRAYONbEFT WRITING HANDaTURNED OK HAND SIGNaRAISED HAND WITH FINGERS SPLAYED",
    "a|,REVERSED jTHUMBS UP SIGNq&DOWNjVICTORY HANDjHAND WITH MIDDLE FINGER EXTENDED",
    "bAISED HAND WITH PART BETWEEN MIDDLE AND RING FINGERSaWHITE DOWN POINTING LEFT HAND INDEX",
    "a(SIDEWAYS WHITE LEFT POINTINGp>RIGHj>BLACK LEFp>RIGHa(BLACK LEFT POINTING BACKHANDg|$RIGH",
    "a(SIDEWAYS WHITE UP POINTINGp=DOWNj=BLACK UPp=DOWNa(BLACK UP POINTING BACKHANDg|#DOWNgHEARTaDESKTOP COMPUTER",
    "aKEYBOARD AND MOUSEaTHREE NETWORKED COMPUTERSaPRINTERbOCKET CALCULATORaBLACK HARD SHELL FLOPPY DISKa|WHITE ",
    "a@SOFTaTAPE CARTRIDGEaWIRED KEYBOARDaONE BUTTON MOUSEa;TWOb;HREEbRACKBALLaOLD PERSONAL COMPUTERaHARD DISKaSCREEN",
    "aPRINTER ICONa&FAXa&OPTICAL DISCaDOCUMENT WITH TEXTs AND PICTUREn*a;FRAMElTILESlAN XaBLACK FOLDERa(a(OPEN ",
    "aCARD INDEX DIVIDERSfFILE BOXaFILE CABINETaEMPTY NOTEk PAGEnDaNOTEe PAGEhDaEMPTY DOCUMENTgPAGEkSaDOCUMENTaPAGEeS",
    "aWASTEBASKETaSPIRAL NOTE PADh%CALENDARaDESKTOP WINDOWaMINIMIZEb&AXaOVERLAP",
    "aCLOCKWISE RIGHT AND LEFT SEMICIRCLE ARROWSbANCELLATION XaINCREASE FONT SIZE SYMBOLa|DECaCOMPRESSIONaOLD KEY",
    "aROLLED-UP NEWSPAPERaPAGE WITH CIRCLED TEXTaSTOCK CHARTaDAGGER KNIFEaLIPSaSPEAKING HEAD IN SILHOUETTE",
    "aTHREE RAYS ABOVElBELOWlLEFTlRIGHTaLEFT SPEECH BUBBLEa=RIGHaTWO SPEECH BUBBLESb=HREEaLEFT THOUGHT BUBBLEa>RIGH",
    "a)LEFT ANGERa<RIGHa)MOODa.LIGHTNING nDaBALLOT BOX WITH BALLOThSCRIPT Xg+ BOX WITHj+LDg< BOX WITH",
    "aLIGHT CHECK MARKaBALLOT BOX WITH BOLD CHECKaWORLD MAPaMOUNT FUJIaTOKYO TOWERaSTATUE OF LIBERTY",
    "bILHOUETTE OF JAPANaMOYAIaGRINNING FACEn WITH SMILING EYESaFACE WITH TEARS OF JOYaSMILING FACE WITH OPEN MOUTH",
    "zd AND SMILING EYESziCOLD SWEATziTIGHTLY-CLOSED EYESsHALOtORNSaWINKING FACEaSMILING FACE WITH SMILING EYES",
    "aFACE SAVOURING DELICIOUS FOODaRELIEVED FACEaSMILING FACE WITH HEART-SHAPED EYESs#SUNGLASSdRKING FACEa&NEUTRAL",
    "a&EXPRESSIONLESSa&UNAMUSEDaFACE WITH COLD SWEATaPENSIVE FACEa&CONFUSEDe)OUNDa&KISSINGaFACE THROWING A KISS",
    "aKISSING FACE WITH SMILING EYESs&CLOSEDaFACE WITH STUCK-OUT TONGUEzE AND WINKING EYEzgTIGHTLY-CLOSED EYES",
    "aDISAPPOINTED FACEa)WORRIa&ANGRYa&POUTINGa*CRYa*PERSEVERaFACE WITH LOOK OF TRIUMPH",
    "aDISAPPOINTED BUT RELIEVED FACEaFROWNING FACE WITH OPEN MOUTHaANGUISHED FACEa&FEARFULa&WEARYa(SLEEPa&TIRED",
    "a&GRIMACINGa*LOUDLY CRYaFACE WITH OPEN MOUTHaHUSHED FACEaFACE WITH OPEN MOUTH AND COLD SWEATfSCREAMING IN FEAR",
    "aASTONISHED FACEa+FLUa&SLEEPINGa&DIZZYaFACE WITHOUT MOUTHj MEDICAL MASKaGRINNING CAT FACE WITH SMILING EYES",
    "aCAT FACE WITH TEARS OF JOYaSMILING CAT FACE WITH OPEN MOUTHwHEART-SHAPED EYESaCAT FACE WITH WRY SMILE",
    "aKISSING CAT FACE WITH CLOSED EYESaPOUTING CAT FACEa:CRYa+WEARYa&SLIGHTLY FROWNINGj*SMILa&UPSIDE-DOWN",
    "aFACE WITH ROLLING EYESkNO GOOD GESTUREk*OKaPERSON BOWING DEEPLYaSEE-NO-EVIL MONKEYa=HEARa=SPEAK",
    "aHAPPY PERSON RAISING ONE HANDaPERSON RAISING BOTH HANDS IN CELEBRATIONhFROWNINGhWITH POUTING FACEmFOLDED HANDS",
    "aNORTH WEST POINTING LEAFa^SOUa>NORTH EAa^SOUa>TURNED NORTH WEh^SOUh>NORTH EAh^SOUa&NORTH WEST POINTING VINE",
    "a|%SOUa^NORTH EAa|%SOUa^HEAVY NORTH WEg|%SOUg^NORTH EAg|%SOUaNORTH WEST POINTING BUDa]SOUa=NORTH EAa]SOU",
    "a=HEAVY NORTH WEg]SOUg=NORTH EAg]SOUbOLLOW QUILT SQUARE ORNAMENTzd IN BLACK SQUAREaSOLID QUILT SQUARE ORNAMENT",
    "zc IN BLACK SQUAREaLEFTWARDS ROCKETa:UPa:RIGHTa:DOWNaSCRIPT LIGATURE ET ORNAMENTa|&HEAVY a:LIGATURE OPEN",
    "a|$HEAVY g+AMPERSANDa[SWASHb+ANS-SERIF HEAVY DOUBLE TURNED COMMA QUOTATION MARKx|*q|= LOWa+HEAVY INTERROBANG",
    "a^SANS-SERIFa|+HEAVY aVERY HEAVY SOLIDUSk* REVERSEaCHECKER BOARDa;REVERSE bOCKETaHELICOPTERaSTEAM LOCOMOTIVE",
    "aRAILWAY CARaHIGH-SPEED TRAINq WITH BULLET NOSEaTRAINaMETROaLIGHT RAILaSTATIONaTRAMe CARaBUSa$ONCOMING a$TROLLEY",
    "aBUS STOPaMINIBUSaAMBULANCEaFIRE ENGINEaPOLICE CARa,ONCOMING aTAXIa%ONCOMING aAUTOMOBILEa,ONCOMING ",
    "a#RECREATIONAL VEHICaDELIVERY TRUCKaARTICULATED LORRYaTRACTORaMONORAILcUNTAIN RAILWAYa+SUSPENSIOa$MOUNTAIN CABLE",
    "a$AERIAL TRAMaSHIPaROWBOATa%SPEEDaHORIZONTAL TRAFFIC LIGHTa>VERTICaCONSTRUCTION SIGNaPOLICE CARS REVOLVING LIGHT",
    "aTRIANGULAR FLAG ON POSTaDOORaNO ENTRY SIGNaSMOKING SYMBOLa<NO a)PUT LITTER IN ITS PLACEa)DO NOT LITTER",
    "a,POTABLE WAa]NON-aBICYCLEaNO BICYCLESaBICYCLISTa+MOUNTAIN aPEDESTRIANaNO PEDESTRIANSaCHILDREN CROSSING",
    "aMENS SYMBOLa.WOaRESTROOMaBABY SYMBOLaTOILETa#WATER CLOSaSHOWERaBATHeTUBaPASSPORT CONTROLaCUSTOMSaBAGGAGE CLAIM",
    "aLEFT LUGGAGEaTRIANGLE WITH ROUNDED CORNERSaPROHIBITED SIGNaCIRCLED INFORMATION SOURCEaBOYS SYMBOLa*GIRL",
    "aCOUCH AND LAMPaSLEEPING ACCOMMODATIONbHOPPING BAGSaBELLHOP BELLcDaPLACE OF WORSHIPaOCTAGONAL SIGN",
    "aSHOPPING TROLLEYbTUPAaPAGODAaHINDU TEMPLEbUTaELEVATOR_____aPLAYGROUND SLIDEaWHEELaRING BUOYaHAMMER AND WRENCH",
    "aSHIELDaOIL DRUMaMOTORWAYaRAILWAY TRACKaMOTOR BOATaUP-POINTING MILITARY AIRPLANEl+l+ SMALLa<a+NORTHEAST-POINTING",
    "aAIRPLANE DEPARTUREjARRIVING___aSATELLITEaONCOMING FIRE ENGINEaDIESEL LOCOMOTIVEaPASSENGER SHIPaSCOOTERa)MOTOR ",
    "aCANOEaSLEDaFLYING SAUCERaSKATEBOARDaAUTO RICKSHAWaPICKUP TRUCKaROLLER SKATE___",
    "aALCHEMICAL SYMBOL FOR QUINTESSENCEwAIRwFIREwEARTHwWATERwAQUAFORTISzA REGIAzh-2zcVITAEzh-2wVINEGARze-2~wSULFUR",
    "v) PHILOSOPHERSw)BLACKwMERCURY SUBLIMATEzo-2~wCINNABARwSALTwNITREwVITRIOLze-2wROCK SALTzg-2wGOLDwSILVERwIRON ORE",
    "zf-2wCROCUS OF IRONw,REGULwCOPPER OREw,IRON-wSUBLIMATE OF COPPERw,CROCUSzn-2xOPPER ANTIMONIATEv[ SALT OF",
    "xUBLIMATE OF SALT OF COPPERwVERDIGRISwTIN OREw%LEADw%ANTIMONYwSUBLIMATE OF ANTIMONYx:ALTv? SUBLIMATE OFw:VINEGAR",
    "w:REGULUSzq-2zdSze-2~~wALKALIzd-2wMARCASITEwSAL-AMMONIACwARSENICwREALGARze-2wAURIPIGMENTwBISMUTH OREwTARTARzd-2",
    "wQUICK LIMEwBORAXzc-2~wALUMwOILwSPIRITwTINCTUREwGUMwWAXwPOWDERwCALXwTUTTYwCAPUT MORTUUMwSCEPTER OF JOVEwCADUCEUS",
    "wTRIDENTv* STARREDwLODESTONEwSOAPwURINEwHORSE DUNGwASHESv( POTwBRICKv( POWDEREDwAMALGAMwSTRATUM SUPER STRATUM",
    "zs-2xUBLIMATIONwPRECIPITATEwDISTILLzSOLVEzf-2wPURIFYyTREFACTIONwCRUCIBLEzf-2~~~wALEMBICwBATH OF MARYzfVAPOURS",
    "wRETORTwHOURwNIGHTw&DAY-wMONTHwHALF DRAMzcOUNCE"]),
  (0x1F780, ["aBLACK LEFT-POINTING ISOSCELES RIGHT TRIANGLEg|:UPg|:RIGHTg|:DOWNg#SLIGHTLY SMALL CIRC",
    "a)MEDIUM BOLD WHITEa?a;HEAVYa@VERY a]EXTREMELa)WHITE CIRCLE CONTAINING BLACK SMALLaROUND TARGET",
    "aBLACK TINY SQUAREg)SLIGHTLY SMALLa)LIGHT WHITEa;MEDIUMa;BOLDa;HEAVYa@VERY a]EXTREMEL",
    "a)WHITE SQUARE CONTAINING BLACK VERY SMALLzf)MEDIUMaSQUARE TARGETaBLACK TINY DIAMONDg*VERY SMALLg<MEDIUM",
    "a<WHITE DIAMOND CONTAINING BLACK VERYzg*MEDIUMaDIAMOND TARGETaBLACK TINY LOZENGEg*VERY SMALLg<MEDIUM",
    "a<WHITE LOZENGE CONTAINING BLACKaTHIN GREEK CROSSa:LIGHTa:MEDIUMa:BOLDa>VERY f:HEAVYa[EXTREMELaTHIN SALTIRE",
    "a*LIGHTa*MEDIUMa*BOLDa*HEAVYa;VERY a=EXTREMELaLIGHT FIVE SPOKED ASTERISKa^MEDIUMa^BOLDa^HEAVYa|%VERY a|(EXTREMEL",
    "a>LIGHT SIXa]MEDIUMa]BOLDa]HEAVYa|$VERY a|&EXTREMELa>LIGHT EIGHTa|MEDIUMa|BOLDa|HEAVYa|&VERY ",
    "aLIGHT THREE POINTED BLACK STARa|$MEDIUMa|#a&MEDIUM THREE POINTED PINWHEELa&LIGHT FOUR POINTED BLACKa|#MEDIUMa|F",
    "a&MEDIUM FOUR POINTED PINWHEELa|&REVERSE LIGHTa&LIGHT FIVE POINTED BLACKa|#HEAVYa[MEDIUM SIXa|HEAVY ",
    "a&SIX POINTED PINWHEELa&MEDIUM EIGHT POINTED BLACKa|$HEAVYa|*VERY a&HEAVY EIGHT POINTED PINWHEEL",
    "a&LIGHT TWELVE POINTED BLACKa|%HEAVYv&PINWHEELaCIRCLED TRIANGLEa>NEGATIVE aCIRCLED SQUAREa<NEGATIVE _______",
    "aLARGE ORANGE CIRCLEg)YELLOWg)GREENg)PURPLEg)BROWNgRED SQUAREg)BLUEg*ORANGg)YELLOWg)GREENg)PURPLEg)BROWN____",
    "aHEAVY EQUALS SIGN"]),
  (0x1F800, ["aLEFTWARDS ARROW WITH SMALL TRIANGLE ARROWHEADa|[UPa|[RIGHTa|[DOWNa[LEFTWARDS ARROW WITH MEDIUMa|]UP",
    "a|]RIGHTa|]DOWNa[LEFTWARDS ARROW WITH LARGEa|[UPa|[RIGHTa|[DOWN____a,LEFTWARDS ARROW WITH SMALL EQUILATERALa||UP",
    "a||RIGHTa||DOWNa|LEFTWARDS ARROW WITHa|>UPa|>RIGHTa|>DOWNa|>HEAVY LEFTg|>UPg|>RIGHTg|>DOWN",
    "g|LEFTWARDS ARROW WITH LARGEg||UPg||RIGHTg||DOWNaLEFTWARDS TRIANGLE-HEADED ARROW WITH NARROW SHAFTa||UPW",
    "a||RIGHTWa||DOWNWa(LEFTWARDS TRIANGLE-HEADED ARROW WITH MEDIUMa||UPWa||RIGHTWa||DOWNW",
    "a(LEFTWARDS TRIANGLE-HEADED ARROW WITH BOLDa|^UPa|^RIGHTa|^DOWNa(LEFTWARDS TRIANGLE-HEADED ARROW WITH HEAVYa||UP",
    "a||RIGHTa||DOWNa:LEFTWARDS TRIANGLE-HEADED ARROW WITH VERYa||&UPa||&RIGHTa||&DOWNaLEFTWARDS FINGER-POST ARROW",
    "a|UPWa|RIGHTWa|DOWNWa(LEFTWARDS SQUAREDa[UPa[RIGHTa[DOWNa*LEFTWARDS COMPRESSa|UPa|RIGHTa|DOWNa?LEFTWARDS HEAVY",
    "a|(UPa|(RIGHTa|(DOWNa(LEFTWARDS HEAVYa?UPa?RIGHTa?DOWN________a(LEFTWARDS SANS-SERIFa|UPa|RIGHTa|DOWN",
    "a?NORTH WESTg[EAa|#SOUg[WEa@LEFT RIGHa?UP DOWN______a(WIDE-HEADED LEFTWARDS LIGHT BARBm|UPm|RIGHTm|DOWN",
    "m?NORTH WESTs[EAm|#SOUs[WEm.LEFTWARDSm>UPm>RIGHTm>DOWNm.NORTH WESTs;EAm@SOUs;WEm.LEFTWARDS MEDIUMm|UPWm|RIGHTW",
    "m|DOWNWm@NORTH WESTs]EAm|$SOUs]WEm.LEFTWARDS HEAVYm|UPm|RIGHTm|DOWNm?NORTH WESTs[EAm|#SOUs[WEm?LEFTWARDS VERY",
    "m|&UPm|&RIGHTm|&DOWNm|NORTH WESTs|#EAm|)SOUs|#WE________aLEFTWARDS TRIANGLE ARROWHEADa|#UPa|#RIGHTa|#DOWN",
    "a[LEFTWARDS WHITE ARROW WITHINa|^UPa|^RIGHTa|^DOWNaLEFTWARDS ARROW WITH NOTCHED TAILa|)UPa|)RIGHTa|)DOWN",
    "aHEAVY ARROW SHAFT WIDTH ONEyTWO THIRDSyONE HALFzdTHIRDaLEFTWARDS BOTTOM-SHADED WHITE ARROWa@RIGHTWARDS BOTTOM ",
    "a[LEFTWARDS TOPa|)RIGHa@LEFTWARDS LEFT-a]RIGHTWARDS RIGHa|+LEFa]RIGHTWARDS LEFa<LEFTWARDS BACK-TILTED SHADOW",
    "a|?RIGHa|(LEFTWARDS FRONTa|@RIGHaWHITE ARROW SHAFT WIDTH ONEyTWO THIRDS__aARROW POINTING UPWARDS THEN NORTH WEST",
    "p)RIGHTWARDS THEN CURVING SOU"]),
  (0x1F900, ["aCIRCLED CROSS FORMEE WITH FOUR DOTSz& TWOtEaLEFT HALF CIRCLE WITH FOUR DOTSw&THREEx&WOwDOTpE",
    "aDOWNWARD FACING HOOKp& NOTCHEDqHOOK WITH DOTp< NOTCHEDaPINCHED FINGERSaWHITE HEARTa(BROWNaPINCHING HAND",
    "aZIPPER-MOUTH FACEa.MONEYaFACE WITH THERMOMETERaNERD FACEa&THINKINGaFACE WITH HEAD-BANDAGEaROBOT FACEa&HUGGING",
    "aSIGN OF THE HORNSaCALL ME HANDa&RAISED BACK OFaLEFT-FACING FISTa;RIGHaHANDSHAKE",
    "e WITH INDEX AND MIDDLE FINGERS CROSSEDaI LOVE YOU HAND SIGNaFACE WITH COWBOY HATaCLOWN FACEa&NAUSEATED",
    "aROLLING ON THE FLOOR LAUGHINGaDROOLING FACEa*LYaFACE PALMaSNEEZING FACEaFACE WITH ONE EYEBROW RAISED",
    "aGRINNING FACE WITH STAR EYEStONE LARGE AND ONE SMALL EYEaFACE WITH FINGER COVERING CLOSED LIPS",
    "aSERIOUS FACE WITH SYMBOLS COVERING MOUTHb=MILING FACE WITH SMILING EYES AND HANDaFACE WITH OPEN MOUTH VOMITING",
    "aSHOCKED FACE WITH EXPLODING HEADaPREGNANT WOMANaBREAST-FEEDINGaPALMS UP TOGETHERaSELFIEaPRINCEaMAN IN TUXEDO",
    "bOTHER CHRISTMASaSHRUGaPERSON DOING CARTWHEELaJUGGLINGaFENCERaMODERN PENTATHLONaWRESTLERSbATER POLOaHANDBALL",
    "aDIVING MASKaWILTED FLOWERaDRUM WITH DRUMSTICKSaCLINKING GLASSESaTUMBLER GLASSaSPOONaGOAL NETaRIFLE",
    "aFIRST PLACE MEDALa:SECONDa;THIRaBOXING GLOVEaMARTIAL ARTS UNIFORMaCURLING STONEaLACROSSE STICK AND BALLa%SOFT",
    "aFLYING DISCaCROISSANTaAVOCADOaCUCUMBERaBACONaPOTATOaCARROTaBAGUETTE BREADa#GREEN SALaSHALLOW PAN OF FOOD",
    "bTUFFED FLATBREADaEGGaGLASS OF MILKaPEANUTSaKIWIFRUITaPANCAKESaDUMPLINGaFORTUNE COOKIEaTAKEOUT BOXaCHOPSTICKS",
    "aBOWL WITH SPOONaCUP WITH STRAWbOCONUTaBROCCOLIaPIEbRETZELaCUT OF MEATaSANDWICHaCANNED FOODaLEAFY GREENaMANGO",
    "bOON CAKEaBAGELaSMILING FACE WITH SMILING EYES AND THREE HEARTSaYAWNING FACEaSMILING FACE WITH TEAR",
    "aFACE WITH PARTY HORN AND PARTY HATkUNEVEN EYES AND WAVY MOUTHaOVERHEATED FACEa&FREEZINGaNINJAaDISGUISED FACE",
    "aFACE HOLDING BACK TEARSfWITH PLEADING EYESaSARIaLAB COATaGOGGLESaHIKING BOOTaFLAT SHOEaCRABaLION FACEaSCORPION",
    "aTURKEYaUNICORN FACEaEAGLEaDUCKaBATaSHARKaOWLaFOX FACEaBUTTERFLYaDEERaGORILLAaLIZARDaRHINOCEROSaSHRIMPbQUID",
    "aGIRAFFE FACEa&ZEBRAaHEDGEHOGaSAUROPODaT-REXaCRICKETaKANGAROOaLLAMAaPEACOCKaHIPPOPOTAMUSaPARROTaRACCOONaLOBSTER",
    "aMOSQUITObICROBEaBADGERaSWANaMAMMOTHaDODOaSLOTHaOTTERbRANGUTANaSKUNKaFLAMINGOaOYSTERa#BEAVbISONaSEALaGUIDE DOG",
    "aPROBING CANEaEMOJI COMPONENT RED HAIRq&CURLYqBALDqWHITE HAIRaBONEaLEGaFOOTaTOOTHaSUPERHEROfVILLAINbAFETY VEST",
    "aEAR WITH HEARING AIDaMOTORIZED WHEELCHAIRb.ANUALbECHANICAL ARMlLEGaCHEESE WEDGEbUPCAKEaSALT SHAKERaBEVERAGE BOX",
    "aGARLICaONIONaFALAFELaWAFFLEaBUTTERaMATE DRINKaICE CUBEaBUBBLE TEAaTROLLaSTANDING PERSONa,KNEELa)DEAF",
    "aFACE WITH MONOCLEaADULTaCHILDaOLDER ADULTaBEARDED PERSONaPERSON WITH HEADSCARFhIN STEAMY ROOMhCLIMBING",
    "hIN LOTUS POSITIONaMAGEaFAIRYaVAMPIREaMERPERSONaELFaGENIEa#ZOMBaBRAINaORANGE HEARTaBILLED CAPaSCARFaGLOVESaCOAT",
    "aSOCKSaRED GIFT ENVELOPEaFIRECRACKERaJIGSAW PUZZLE PIECEaTEST TUBEaPETRI DISHaDNA DOUBLE HELIXaCOMPASSaABACUS",
    "aFIRE EXTINGUISHERaTOOLBOXaBRICKaMAGNETaLUGGAGEbOTION BOTTLEaSPOOL OF THREADaBALL OF YARNaSAFETY PINaTEDDY BEAR",
    "aBROOMbASKETaROLL OF PAPERaBAR OF SOAPaSPONGEaRECEIPTaNAZAR AMULETbEUTRAL CHESS KINGoQUEENoROOKoBISHOPoKNIGHT",
    "oPAWNaWHITE CHESS KNIGHT ROTATED FORTY-FIVE DEGREESa|@BLACKa|@NEUTRALa*WHITE CHESS KING ROTATED NINETYm|QUEEN ",
    "m|ROOK m|BISHOP m|KNIGHT m|PAWN a|BLACK CHESS KING m|QUEEN m|ROOK m|BISHOP m|KNIGHT m|PAWN a|NEUTRAL CHESS KING ",
    "o|QUEEN o|ROOK o|BISHOP o|KNIGHT o|PAWN a*WHITE CHESS KNIGHT ROTATED ONE HUNDRED THIRTY-FIVEa||+BLACKa||+NEUTRAL",
    "aWHITE CHESS TURNED KINGtQUEENtROOKtBISHOPtKNIGHTtPAWNaBLACK CHESS TURNED KINGtQUEENtROOKtBISHOPtKNIGHTtPAWN",
    "aNEUTRAL CHESS TURNED KINGvQUEENvROOKvBISHOPvKNIGHTvPAWN",
    "aWHITE CHESS KNIGHT ROTATED TWO HUNDRED TWENTY-FIVE DEGREESa||+BLACKa||+NEUTRAL",
    "a*WHITE CHESS KING ROTATED TWO HUNDRED SEVENTYm|<QUEENm|<ROOKm|<BISHOPm|<KNIGHTm|<PAWNa|<BLACK CHESS KING",
    "m|<QUEENm|<ROOKm|<BISHOPm|<KNIGHTm|<PAWNa|<NEUTRAL CHESS KINGo|<QUEENo|<ROOKo|<BISHOPo|<KNIGHTo|<PAWN",
    "a*WHITE CHESS KNIGHT ROTATED THREE HUNDRED FIFTEENa||)BLACKa||)NEUTRALaWHITE CHESS EQUIHOPPERa?BLACKa?NEUTRAL",
    "aWHITE CHESS EQUIHOPPER ROTATED NINETY DEGREESa|@BLACKa|@NEUTRALaWHITE CHESS KNIGHT-QUEENtROOKtBISHOP",
    "aBLACK CHESS KNIGHT-QUEENtROOKtBISHOP"]),
  (0x1FA60, ["aXIANGQI RED GENERALmMANDARINmELEPHANTmHORSEmCHARIOTnANNONmSOLDIERiBLACK GENERALoMANDARINoELEPHANT",
    "oHORSEoCHARIOTpANNONoSOLDIER__aBALLET SHOESaONE-PIECE SWIMSUITaBRIEFSaSHORTSaTHONG SANDAL___aDROP OF BLOOD",
    "aADHESIVE BANDAGEaSTETHOSCOPEaX-RAYaCRUTCH___aYO-YOaKITEa#PARACHUaBOOMERANGaMAGIC WANDaPINATAaNESTING DOLLS"]),
  (0x1FA90, ["aRINGED PLANETaCHAIRaRAZORaAXEaDIYA LAMPaBANJOaMILITARY HELMETaACCORDIONaLONG DRUMaCOINbARPENTRY SAW",
    "aSCREWDRIVERa#LADDaHOOKaMIRRORaWINDOWaPLUNGERaSEWING NEEDLEaKNOTaBUCKETaMOUSE TRAPaTOOTHBRUSHaHEADSTONEaPLACARD",
    "aROCKaMIRROR BALLaIDENTIFICATION CARDaLOW BATTERYaHAMSA___aFLYaWORMaBEETLEaCOCKROACHaPOTTED PLANTaWOODaFEATHER",
    "aLOTUSaCORALaEMPTY NESTaNEST WITH EGGS_____aANATOMICAL HEARTaLUNGSaPEOPLE HUGGINGbREGNANT MANjPERSON",
    "bERSON WITH CROWN"]),
  (0x1FAD0, ["aBLUEBERRIESbELL PEPPERaOLIVEaFLATBREADaTAMALEaFONDUEaTEAPOTaPOURING LIQUIDaBEANSaJAR______",
    "aMELTING FACEa+SALUaFACE WITH OPEN EYES AND HAND OVER MOUTHkPEEKING EYEkDIAGONAL MOUTHaDOTTED LINE FACE",
    "aBITING LIPbUBBLES________aHAND WITH INDEX FINGER AND THUMB CROSSEDaRIGHTWARDS HANDa.LEFa&PALM DOWNf&UP",
    "aINDEX POINTING AT THE VIEWERaHEART HANDS"]),
  (0x1FB00, ["aBLOCK SEXTANT-1~o12o3o13o23o#1o4o14o24o#1o34o#1o#2o$1o5o15o25o#1o35o#2o$1o45o#1o#2o$1o#3o$1o$2o%1o6",
    "o16o26o#1o36o#1o#2o$1o46o#1p#2o#3o$1o$2o%1o56o#1o#2o$1o#3o$1o$2o%1o#4o$1o$2o%1o$3o%1o%2",
    "aLOWER LEFT BLOCK DIAGONAL LOWER MIDDLE LEFT TO LOWER CENTREzzdRIGHTz UPPER MIDDLE LEFT TO LOWER CENTREzzdRIGHT",
    "zhLEFT TO LOWER CENTREg+RIGHT BLOCK DIAGONAL UPPER MIDDLE LEFT TO UPPzzeRIGHTzcLOWER MIDDLE LEFT TO UPPER CENTRE",
    "zzeRIGHTziLEFT TO UPPER CENTREziMIDDLE LEFT TO UPPER MIDDLE RIGHTzi=CENTRE TO LOWzi|LEFTzi=CENTRE TO UPPzi|LEFT",
    "zi(CENTRE TO UPPERg(LEFT BLOCK DIAGONAL UPPER CENTRE TO UPPER MIDDLEzh|LEFTzh=CENTRE TO LOWzh|LEFT",
    "zh(CENTRE TO LOWERzh(MIDDLE LEFT TO LOWER MIDDLEaUPPER RIGHT BLOCK DIAGONAL LOWER MIDDLE LEFT TO LOWER CENTRE",
    "zzeRIGHTzcUPPER MIDDLE LEFT TO LOWER CENTREzzeRIGHTziLEFT TO LOWER CENTRE",
    "g+LEFT BLOCK DIAGONAL UPPER MIDDLE LEFT TO UPPzzdRIGHTz LOWER MIDDLE LEFT TO UPPER CENTREzzdRIGHT",
    "zhLEFT TO UPPER CENTREzhMIDDLE LEFT TO UPPER MIDDLE RIGHTzh=CENTRE TO LOWzh|LEFTzh=CENTRE TO UPPzh|LEFT",
    "zh(CENTRE TO UPPERg(RIGHT BLOCK DIAGONAL UPPER CENTRE TO UPPER MIDDLEzi|LEFTzi=CENTRE TO LOWzi|LEFT",
    "zi(CENTRE TO LOWERzi(MIDDLE LEFT TO LOWER MIDDLEgAND RIGHT AND LOWER TRIANGULAR THREE QUARTERS BLOCK",
    "a|,LEFT AND LOWER AND RIGHTa|,UPPER AND LEFT AND LOWERa|,LEFT AND UPPER AND RIGHTf(TRIANGULAR ONE QUARTER",
    "a|)UPPERa|)RIGHTa|)LOWERaVERTICAL ONE EIGHTH BLOCK-2~~~~~aHORIZONTAL ONE EIGHTH BLOCK-2~~~~~",
    "aLEFT AND LOWER ONE EIGHTH BLOCKj[UPPa|(RIGHk[LOWa|&UPPERaHORIZONTAL ONE EIGHTH BLOCK-1358",
    "aUPPER ONE QUARTER BLOCKg(THREE EIGHTHSg=FIVg)THREE QUARTERg)SEVEN EIGHTHa(RIGHT ONE QUARTERg(THREE EIGHTHSg=FIV",
    "g)THREE QUARTERg)SEVEN EIGHTHaLEFT HALF MEDIUM SHADEa[RIGHa@UPPERa]LOWa;INVERSE",
    "a]UPPER HALF BLOCK AND LOWER HALF lINVERSE MEDIUM SHADE AND LOWER HALF BLOCK_",
    "a.LEFT HALF INVERSE MEDIUM SHADE AND RIGHTaCHECKER BOARD FILLa@INVERSE a&HEAVY HORIZONTAL",
    "a&UPPER LEFT TO LOWER RIGHTg(RIGHT TO LOWER LEFgAND LOWER TRIANGULAR HALF BLOCKa|LEFT AND RIGHT",
    "aUPPER LEFT TRIANGULAR MEDIUM SHADEg|$RIGHa|,LOWg|$LEFaBOX DRAWINGS LIGHT DIAGONAL UPPER CENTRE TO MIDDLE LEFT",
    "zz RIGHTzdMIDDLE LEFT TO LOWER CENTREzk?RIGHzd?UPPER CENTRE TO MIDDLE LEFzz? RIGH",
    "zdMIDDLE LEFT TO LOWER CENTRE TO MIDDLE RIGHTzs|$UPP",
    "zdUPPER CENTRE TO MIDDLE LEFT AND MIDDLE RIGHT TO LOWER CENTREzz? RIGHT AND MIDDLE LEF",
    "zzhTO LOWER CENTRE TO MIDDLE LEFTzz LEFT TO LOWER CENTRE TO MIDDLE RIGHT",
    "zdMIDDLE LEFT TO UPPER CENTRE TO MIDDLE RIGHT TO LOWER CENTREzk?RIGHT TO UPPER CENTRE TO MIDDLE LEFzdDIAMOND",
    "tHORIZONTAL WITH VERTICAL STROKEaARROWHEAD-SHAPED POINTERaINVERSE CHECK MARKaLEFT HALF RUNNING MANa@RIGH",
    "aINVERSE DOWNWARDS ARROW WITH TIP LEFTWARDSaLEFTWARDS ARROW AND UPPER AND LOWER ONE EIGHTH BLOCKa||&RIGH",
    "a?DOWNWARDS ARROW AND RIGHTa|>UPaLEFT HALF FOLDERa;RIGHaVOIDED GREEK CROSSaRIGHT OPEN SQUARED DOT",
    "aNEGATIVE DIAGONAL CROSSsMIDDLE RIGHT TO LOWER CENTREsDIAMONDaWHITE HEAVY SALTIRE WITH ROUNDED CORNERS",
    "aLEFT THIRD WHITE RIGHT POINTING INDEXa|.MIDDLEa|.RIGHTaNEGATIVE SQUARED QUESTION MARKaSTICK FIGURE",
    "m WITH ARMS RAISEDnLEANING LEFTvRIGHTnWITH DRESSaWHITE UP-POINTING CHEVRON"]),
  (0x1FBF0, ["aSEGMENTED DIGIT ZEROqONEqTWOrHREEqFOURrIVEqSIXrEVENqEIGHTqNINE"]),
  (0xE0001, ["aLANGUAGE TAG"]),
  (0xE0020, ["aTAG SPACEeEXCLAMATION MARKe,QUOTeNUMBER SIGNe(DOLLAe&PERCENTeAMPERSANDfPOSTROPHEeLEFT PARENTHESIS",
    "e;RIGHeASTERISKePLUS SIGNeCOMMAeHYPHEN-MINUSeFULL STOPeSOLIDUSeDIGIT ZEROkONEkTWOlHREEkFOURlIVEkSIXlEVENkEIGHT",
    "kNINEeCOLONe&SEMIeLESS-THAN SIGNe&EQUALSe&GREATER-THANeQUESTION MARKeCOMMERCIAL ATeLATIN CAPITAL LETTER A~~~~~~~",
    "~~~~~~~~~~~~~~~~~~fEFT SQUARE BRACKETeREVERSE SOLIDUSfIGHT SQUARE BRACKETeCIRCUMFLEX ACCENTeLOW LINE",
    "eGRAVE ACCENTeLATIN SMALL LETTER A~~~~~~~~~~~~~~~~~~~~~~~~~fEFT CURLY BRACKETeVERTICAL LINEeRIGHT CURLY BRACKET",
    "eTILDEaCANCEL TAG"]),
  (0xE0100, ["aVARIATION SELECTOR-17~~t20~~~~~~~~~t30~~~~~~~~~t40~~~~~~~~~t50~~~~~~~~~t60~~~~~~~~~t70~~~~~~~~~t80~~~",
    "~~~~~~t90~~~~~~~~~t100~~~~~~~~~u10~~~~~~~~~u20~~~~~~~~~u30~~~~~~~~~u40~~~~~~~~~u50~~~~~~~~~u60~~~~~~~~~u70~~~~~~",
    "~~~u80~~~~~~~~~u90~~~~~~~~~t200~~~~~~~~~u10~~~~~~~~~u20~~~~~~~~~u30~~~~~~~~~u40~~~~~~~~~u50~~~~~~"])]

end FlowSketch.TextNameSupplement
